/-
  The handoff of an authorized operation (`src/t2_user_broker.py`).

  One call of `run_self_service` holds the caller, the lock of the mapping file and the sensor, looks at all
  of them several times, lets the policy decide, and hands the authority to one consumer.  With it goes a
  closure that looks again before each dispatch.

  1. **Data** — `Command`: everything that is asked of the caller, the files, the sensor and the clock, with
     its answers; `BrokerAuthority`, what the consumer gets; the arguments as the record `SelfService`.
  2. **Program** — the helpers under their names; `runSelfService` is cut into one definition for each `with`
     block; `DispatchAllowed.call` is the closure, with the variables that it captures.

  The attributes `caller`, `account` and `session` of an authorization session are set once.  Its descriptors
  are closed in any case, which asks for nothing.
-/
import T2TouchId.Calls
import T2TouchId.User.Policy

set_option linter.unusedSectionVars false

namespace T2TouchId.User.Broker

open T2TouchId.Calls T2TouchId.Python T2TouchId.Python.Json T2TouchId.Journal

section Broker

variable {φ : Type} [JsonFloat φ]

/-! ## Data -/

/-- `t2_linux_account.AccountEvidence`. -/
structure AccountEvidence (φ : Type) where
  linuxUid : Value φ
  generation : Value φ
  source : Value φ
  protectedPasswordRecord : Value φ
  homeObjectBound : Value φ

/-- `t2_ipc_session.SessionEvidence`. -/
structure SessionEvidence (φ : Type) where
  binding : Value φ
  sessionId : Value φ
  sessionType : Value φ
  sessionClass : Value φ
  seatAttached : Value φ
  sessionStartTimeUsec : Value φ
  activeLocalSession : Value φ

/-- `t2_ipc_session.AuthorizationEvidence`; of its policy, the grant. -/
structure AuthorizationEvidence (φ : Type) where
  caller : CallerEvidence φ
  account : AccountEvidence φ
  session : SessionEvidence φ
  grant : PolicyGrant φ

/-- The attributes of an authorization session. -/
structure BrokerAuthorizationSession (φ : Type) where
  /-- `none` is a caller that is no `CallerEvidence`. -/
  caller : Option (CallerEvidence φ)
  account : AccountEvidence φ
  session : SessionEvidence φ

/-- The fields of two records of one class are equal. -/
def sameFields : List (Value φ) → List (Value φ) → Bool
  | [], [] => true
  | a :: rest, b :: others => !differ a b && sameFields rest others
  | _, _ => false

def callerFields (caller : CallerEvidence φ) : List (Value φ) :=
  [caller.linuxUid, caller.linuxAccountGeneration, caller.authenticated, caller.activeLocalSession]

def AccountEvidence.fields (account : AccountEvidence φ) : List (Value φ) :=
  [account.linuxUid, account.generation, account.source, account.protectedPasswordRecord,
   account.homeObjectBound]

def SessionEvidence.fields (session : SessionEvidence φ) : List (Value φ) :=
  [session.binding, session.sessionId, session.sessionType, session.sessionClass, session.seatAttached,
   session.sessionStartTimeUsec, session.activeLocalSession]

/-- What `collect` of the sensor returns. -/
abbrev LiveEvidence (φ : Type) : Type := PersistentEvidence φ × AliasEvidence φ

def liveFields (live : LiveEvidence φ) : List (Value φ) :=
  [live.1.linuxAccountGeneration, live.1.keybagSha256, live.1.catacombUserId, live.1.accountUuid,
   live.1.bagUuid, live.1.catacombReconciled, live.2.present, live.2.specialAlias, live.2.bagUuid,
   live.2.lockState, live.2.accountUuid]

/-- `==` of two collections. -/
def sameLive (live other : LiveEvidence φ) : Bool := sameFields (liveFields live) (liveFields other)

/-- What `authorization.collect` is called with. -/
structure CollectArguments (φ : Type) where
  targetLinuxUid : Value φ
  action : PyStr
  mappingGeneration : PyStr
  operationId : Value φ
  linuxBootUuid : Value φ
  runtimeGeneration : Value φ
  allowUserInteraction : Value φ
  grantLifetimeNs : Value φ

/-- The variables that `dispatch_allowed` captures. -/
structure DispatchAllowed (φ : Type) where
  mappingSet : UserMappingSet
  selected : UserMapping
  decision : UserPolicyDecision φ
  capability : PyStr
  linuxBootUuid : Value φ
  runtimeGeneration : Value φ
  activation : Bool
  authorizedOperationId : Value φ

structure BrokerAuthority (φ : Type) where
  mappingSet : UserMappingSet
  selected : UserMapping
  persistent : PersistentEvidence φ
  aliased : AliasEvidence φ
  decision : UserPolicyDecision φ
  operationId : Value φ
  linuxBootUuid : Value φ
  runtimeGeneration : Value φ
  stage : String
  dispatchAllowed : DispatchAllowed φ

structure BrokerResult (φ : Type) where
  decision : UserPolicyDecision φ
  consumerInvoked : Bool
  value : Value φ

/-- What comes back from a function that may raise anything. -/
inductive Reply (α : Type)
  | raised
  | returned (a : α)

/-- What the consumer does. -/
inductive Consumed (φ : Type)
  | raised
  | awaitable
  | returned (value : Value φ)

/-- What is asked. -/
inductive Command (φ : Type)
  | requireRoot
  | uuid4
  | bootReader
  /-- `authorization_factory`; the answer says whether its result can be entered, as for the sensor. -/
  | authorizationFactory
  | enterAuthorization
  | exitAuthorization
  | openParent
  | openLock
  | loadOptional
  | keybagReader (path : PyStr)
  | liveFactory
  | enterLive
  | exitLive
  | runtimeGeneration
  | liveCollect (selected : UserMapping) (accountGeneration keybagSha256 : Value φ)
  | authorizationCollect (arguments : CollectArguments φ)
  | revalidate
  | clock
  | consumer (authority : BrokerAuthority φ)

@[reducible] def CommandAnswer : Command φ → Type
  | .requireRoot | .exitAuthorization | .openParent | .openLock | .enterLive | .exitLive | .revalidate => Reply Unit
  | .uuid4 => Reply PyStr
  | .authorizationFactory | .liveFactory => Reply Bool
  | .bootReader | .keybagReader _ | .runtimeGeneration | .clock => Reply (Value φ)
  | .enterAuthorization => Reply (BrokerAuthorizationSession φ)
  | .loadOptional => Reply (Option UserMappingSet)
  -- `none` is a value of the wrong type
  | .liveCollect _ _ _ => Reply (Option (LiveEvidence φ))
  | .authorizationCollect _ => Reply (Option (AuthorizationEvidence φ))
  | .consumer _ => Consumed φ

/-- What `run_self_service` raises. -/
inductive BrokerError
  /-- `UserBrokerError`. -/
  | broker (message : String)
  /-- Anything else. -/
  | other
  deriving DecidableEq

/-- A part of the transaction. -/
abbrev Transaction (φ : Type) [JsonFloat φ] (α : Type) : Type :=
  Op (Command φ) (CommandAnswer (φ := φ)) Unit BrokerError α

/-! ## Calls -/

def ask (command : Command φ) : Transaction φ (CommandAnswer command) := Op.ask command

/-- A call, and what it returned. -/
def answered {α : Type} : Reply α → Transaction φ α
  | .raised => Op.raise .other
  | .returned a => pure a

/-- `raise UserBrokerError(message)`. -/
def refuse {α : Type} (message : String) : Transaction φ α := Op.raise (.broker message)

/-- `if …: raise UserBrokerError(message)`. -/
def refuseIf (p : Prop) [Decidable p] (message : String) : Transaction φ Unit :=
  if p then refuse message else pure ()

/-- `try: … except Exception as error: raise UserBrokerError(message)`. -/
def wrapped {α : Type} (block : Transaction φ α) (message : String) : Transaction φ α :=
  block.except fun _ => refuse message

/-- `except UserPolicyError as error: raise UserBrokerError(message)`. -/
def decided {α : Type} (result : Except PolicyError α) (message : String) : Transaction φ α :=
  match result with
  | .ok a => pure a
  | .error (.policy _) => refuse message
  | .error .typeError => Op.raise .other

/-- `_monotonic`. -/
def brokerMonotonic : Transaction φ (Value φ) := do
  let value ← wrapped (do answered (← ask .clock)) "broker monotonic time is unavailable"
  let _ ← decided (monotonic value "broker monotonic time") "broker monotonic time is invalid"
  return value

/-- `_live_collect`. -/
def liveCollect (selected : UserMapping) (accountGeneration keybagSha256 : Value φ) :
    Transaction φ (LiveEvidence φ) := do
  let value ← wrapped (do answered (← ask (.liveCollect selected accountGeneration keybagSha256)))
    "live target evidence collection failed"
  match value with
  | some live => return live
  | none => refuse "live target evidence is malformed"

/-- The evidence is of this session. -/
def consistent (authorization : BrokerAuthorizationSession φ) (value : AuthorizationEvidence φ) : Bool :=
  (match authorization.caller with
    | some caller => sameFields (callerFields value.caller) (callerFields caller)
    | none => false)
  && sameFields value.account.fields authorization.account.fields
  && sameFields value.session.fields authorization.session.fields

/-- `_authorization_collect`. -/
def authorizationCollect (authorization : BrokerAuthorizationSession φ) (arguments : CollectArguments φ) :
    Transaction φ (AuthorizationEvidence φ) := do
  let value ← wrapped (do answered (← ask (.authorizationCollect arguments)))
    "caller policy collection failed"
  match value with
  | none => refuse "caller policy evidence is inconsistent"
  | some value => do
    refuseIf (¬ consistent authorization value) "caller policy evidence is inconsistent"
    return value

/-- `authorization.revalidate()`. -/
def revalidate : Transaction φ Unit := do answered (← ask .revalidate)

/-- `_stable_mapping`. -/
def stableMapping (expected : UserMappingSet) : Transaction φ Unit := do
  let current ← answered (← ask .loadOptional)
  refuseIf (current ≠ some expected) "protected mapping changed during authorization"

/-- `_keybag`. -/
def keybag (selected : UserMapping) : Transaction φ (Value φ) := do
  let digest ← wrapped (do
    let digest ← answered (← ask (.keybagReader selected.keybagPath))
    let _ ← decided (policyDigest digest "keybag digest") "keybag digest"
    return digest) "protected keybag assertion failed"
  refuseIf (differ digest (.str selected.keybagSha256) = true) "protected keybag digest changed"
  return digest

/-! ## The closure -/

namespace DispatchAllowed

variable (captured : DispatchAllowed φ)

/-- The body of its `try`. -/
def check : Transaction φ Bool := do
  revalidate
  stableMapping captured.mappingSet
  let _ ← keybag captured.selected
  let runtimeGeneration ← answered (← ask .runtimeGeneration)
  if differ runtimeGeneration captured.runtimeGeneration then return false
  else do
    let observed ← brokerMonotonic
    let currentOperationId ← decided (requireBoundAuthority captured.decision captured.mappingSet
      captured.selected captured.capability captured.linuxBootUuid captured.runtimeGeneration observed
      captured.activation) "policy"
    return !differ currentOperationId captured.authorizedOperationId

/-- `dispatch_allowed`. -/
def call : Transaction φ Bool := captured.check.except fun _ => pure false

end DispatchAllowed

/-! ## The transaction -/

/-- The arguments of `run_self_service`. -/
structure SelfService (φ : Type) where
  operation : Value φ
  modificationAllowed : Value φ
  allowUserInteraction : Value φ
  collectActivationAuthority : Value φ
  grantLifetimeNs : Value φ
  consumerCallable : Bool
  /-- A connection is given. -/
  connection : Bool
  defaultFactory : Bool
  /-- An authorization manager is given, and whether it can be entered. -/
  authorizationManager : Option Bool

/-- The truth of a value. -/
def isTruthy : Value φ → Bool
  | .none => false
  | .bool b => b
  | .int n => n ≠ 0
  | .float x => !PyFloat.eqInt x 0
  | .str s => s ≠ []
  | .bytes b => b ≠ []
  | .list items | .tuple items => !items.isEmpty
  | .dict items => !items.isEmpty
  | .object => true

namespace SelfService

variable (service : SelfService φ)

/-- What is known when the sensor is entered. -/
structure Target (φ : Type) where
  policy : OperationPolicy
  operationId : Value φ
  linuxBootUuid : Value φ
  authorization : BrokerAuthorizationSession φ
  caller : CallerEvidence φ
  mappingSet : UserMappingSet
  selected : UserMapping
  keybagSha256 : Value φ

variable (target : Target φ) (runtimeGeneration : Value φ)

/-- A live collection of the target. -/
def collectLive : Transaction φ (LiveEvidence φ) :=
  liveCollect target.selected target.authorization.account.generation target.keybagSha256

/-- A policy collection for an action. -/
def collectPolicy (action : PyStr) : Transaction φ (AuthorizationEvidence φ) :=
  authorizationCollect target.authorization
    { targetLinuxUid := target.caller.linuxUid
      action
      mappingGeneration := target.mappingSet.generation
      operationId := target.operationId
      linuxBootUuid := target.linuxBootUuid
      runtimeGeneration
      allowUserInteraction := service.allowUserInteraction
      grantLifetimeNs := service.grantLifetimeNs }

/-- The activation is collected too. -/
def wantsActivation (readiness : ReadinessDecision) (operationEvidence : AuthorizationEvidence φ) : Bool :=
  service.collectActivationAuthority.isTrue && isTruthy operationEvidence.grant.authorized
    && readiness.state ∈ activatableStates

/-- The second policy collection, where there is one. -/
def collectActivation (readiness : ReadinessDecision) (operationEvidence : AuthorizationEvidence φ) :
    Transaction φ (Option (AuthorizationEvidence φ)) :=
  if service.wantsActivation readiness operationEvidence then do
    let evidence ← service.collectPolicy target runtimeGeneration activateAction
    return some evidence
  else return none

/-- The part behind the decision. -/
def handoff (first : LiveEvidence φ) (decision : UserPolicyDecision φ) :
    Transaction φ (BrokerResult φ) := do
  revalidate
  stableMapping target.mappingSet
  let _ ← keybag target.selected
  let third ← collectLive target
  refuseIf (¬ sameLive third first) "live target changed before operation handoff"
  revalidate
  stableMapping target.mappingSet
  let _ ← keybag target.selected
  let activation := decide (decision.state = .activationAuthorized)
  let observed ← brokerMonotonic
  let authorizedOperationId ← decided (requireBoundAuthority decision target.mappingSet target.selected
    target.policy.capability target.linuxBootUuid runtimeGeneration observed activation)
    "broker authority expired or changed before handoff"
  let authority : BrokerAuthority φ :=
    { mappingSet := target.mappingSet
      selected := target.selected
      persistent := first.1
      aliased := first.2
      decision
      operationId := authorizedOperationId
      linuxBootUuid := target.linuxBootUuid
      runtimeGeneration
      stage := if activation then "activate" else "operate"
      dispatchAllowed :=
        { mappingSet := target.mappingSet
          selected := target.selected
          decision
          capability := target.policy.capability
          linuxBootUuid := target.linuxBootUuid
          runtimeGeneration
          activation
          authorizedOperationId } }
  match ← ask (.consumer authority) with
  | .raised => refuse "authorized broker consumer failed; inspect its journal"
  | .awaitable => refuse "authorized broker consumer must be synchronous"
  | .returned value => return { decision, consumerInvoked := true, value }

/-- The decision, from the policy collections on. -/
def reachDecision (first : LiveEvidence φ) (readiness : ReadinessDecision) :
    Transaction φ (UserPolicyDecision φ) := do
  let operationEvidence ← service.collectPolicy target runtimeGeneration target.policy.action
  let activationEvidence ← service.collectActivation target runtimeGeneration readiness operationEvidence
  revalidate
  stableMapping target.mappingSet
  refuseIf (differ target.authorization.account.generation (.str target.selected.linuxAccountGeneration) = true)
    "caller account changed during authorization"
  let digest ← keybag target.selected
  refuseIf (differ digest target.keybagSha256 = true) "protected keybag changed during authorization"
  let second ← collectLive target
  refuseIf (¬ sameLive second first) "live target changed during authorization"
  let observed ← brokerMonotonic
  decided (authorize target.mappingSet
    { operation := service.operation
      targetLinuxUid := target.caller.linuxUid
      operationId := target.operationId
      linuxBootUuid := target.linuxBootUuid
      runtimeGeneration
      observedMonotonicNs := observed
      modificationAllowed := service.modificationAllowed }
    operationEvidence.caller first.1 first.2 (some operationEvidence.grant)
    (activationEvidence.map AuthorizationEvidence.grant)) "self-service broker transaction failed"

/-- `with live_manager as live`. -/
def withLive : Transaction φ (BrokerResult φ) := do
  let runtimeGeneration ← answered (← ask .runtimeGeneration)
  let _ ← decided (policyUuid runtimeGeneration "runtime generation") "live broker generation is invalid"
  let first ← collectLive target
  match assess target.selected target.policy.capability first.1 first.2 with
  | .error _ => refuse "live target readiness is malformed"
  | .ok readiness => do
    let decision ← service.reachDecision target runtimeGeneration first readiness
    if decision.state ∈ [PolicyState.authorized, .activationAuthorized] then
      handoff target runtimeGeneration first decision
    else return { decision, consumerInvoked := false, value := .none }

/-- `with selected_authorization as authorization`. -/
def withAuthorization (policy : OperationPolicy) (operationId linuxBootUuid : Value φ)
    (authorization : BrokerAuthorizationSession φ) : Transaction φ (BrokerResult φ) :=
  match authorization.caller with
  | none => refuse "authorization caller is malformed"
  | some caller => do
    answered (← ask .openParent)
    answered (← ask .openLock)
    match ← answered (← ask .loadOptional) with
    | none => refuse "protected mapping does not exist"
    | some mappingSet =>
      -- `resolve` begins with the test of the user ID
      match (do let uid ← unsigned caller.linuxUid "target Linux UID" 1
                mappingSet.resolve uid policy.capability) with
      | .error _ => refuse "caller has no enabled mapping for this operation"
      | .ok selected => do
        refuseIf (differ authorization.account.generation (.str selected.linuxAccountGeneration) = true)
          "caller account generation is not mapped"
        let keybagSha256 ← keybag selected
        let enterable ← answered (← ask .liveFactory)
        refuseIf (¬ enterable) "live broker session has the wrong type"
        answered (← ask .enterLive)
        (service.withLive
          { policy, operationId, linuxBootUuid, authorization, caller, mappingSet, selected,
            keybagSha256 }).leaving (do answered (← ask .exitLive))

/-- The session that is used, and whether it can be entered. -/
def authorizationSource : Transaction φ Bool :=
  match service.authorizationManager with
  | none => do
    refuseIf (¬ service.connection) "broker authorization source is unavailable"
    answered (← ask .authorizationFactory)
  | some manager => do
    refuseIf (service.connection ∨ ¬ service.defaultFactory) "broker authorization sources are ambiguous"
    return manager

/-- The body that ends with the descriptors closed, with its handlers. -/
def transaction (policy : OperationPolicy) (operationId linuxBootUuid : Value φ) :
    Transaction φ (BrokerResult φ) :=
  Op.except (do
    let enterable ← service.authorizationSource
    refuseIf (¬ enterable) "authorization session has the wrong type"
    let authorization ← answered (← ask .enterAuthorization)
    (service.withAuthorization policy operationId linuxBootUuid authorization).leaving
      (do answered (← ask .exitAuthorization))) fun
    | .broker message => refuse message
    | .other => refuse "self-service broker transaction failed"

/-- The tests of the arguments. -/
def arguments : Except BrokerError OperationPolicy := do
  raiseIf (¬ isHashable service.operation) .other
  match policyNamed service.operation with
  | none => .error (.broker "broker operation is unsupported")
  | some policy => do
    raiseIf (¬ isBool service.modificationAllowed) (.broker "modification policy must be Boolean")
    raiseIf (¬ isBool service.allowUserInteraction) (.broker "interaction policy must be Boolean")
    raiseIf (¬ isBool service.collectActivationAuthority)
      (.broker "activation collection policy must be Boolean")
    raiseIf (¬ service.consumerCallable) (.broker "broker consumer is unavailable")
    return policy

/-- The identities of the operation. -/
def identities : Transaction φ (Value φ × Value φ) :=
  wrapped (do
    let operationId ← answered (← ask .uuid4)
    let linuxBootUuid ← answered (← ask .bootReader)
    let _ ← decided (policyUuid linuxBootUuid "Linux boot UUID") "Linux boot UUID"
    return (.str operationId, linuxBootUuid)) "broker identities are unavailable"

/-- `run_self_service`. -/
def runSelfService : Transaction φ (BrokerResult φ) := do
  wrapped (do answered (← ask .requireRoot)) "self-service broker requires root"
  let policy ← Op.lift service.arguments
  let (operationId, linuxBootUuid) ← identities
  service.transaction policy operationId linuxBootUuid

end SelfService

end Broker

end T2TouchId.User.Broker
