/-
  Who may do what with which mapped user (`src/t2_user_policy.py`).

  The policy is asked with evidence that a broker has collected: a request, its caller, what was seen of the
  target, and the grants that a user gave.  It answers with a decision, which carries the binding that
  `require_bound_authority` tests again when the decision is used.

  Problem: a decision permits on some twenty equalities between these records, tested one after the other
  with an early return at each; a test that is missing on one of the ways is a bypass.

  1. **Data** — the records of the evidence, whose fields are any values; `PolicyState`, the decision.
  2. **Program** — `validateRequest`, `validateGrant`, `grantBound`, `authorize`, `requireBoundAuthority`.
  3. **Specification** — `Covers`: a live grant for exactly this action; `MayOperate`: everything but the
     readiness of the target.
-/
import T2TouchId.User.Readiness

namespace T2TouchId.User

open T2TouchId.Python T2TouchId.Python.Json T2TouchId.Journal

/-! ## Data -/

/-- `MAX_POLICY_LIFETIME_NS`. -/
def maxPolicyLifetimeNs : Int := 5 * 60 * 1000000000

/-- `ACTIVATE_ACTION`. -/
def activateAction : PyStr := py "org.t2linux.touchid.activate-user"

structure OperationPolicy where
  capability : PyStr
  action : PyStr
  mutation : Bool
  deriving DecidableEq

/-- `OPERATION_POLICIES`. -/
def operationPolicies : List (String × OperationPolicy) :=
  [("verify", ⟨py "verify", py "org.t2linux.touchid.verify", false⟩),
   ("inventory", ⟨py "verify", py "org.t2linux.touchid.inventory", false⟩),
   ("enroll", ⟨py "enroll", py "org.t2linux.touchid.enroll", true⟩),
   ("rename", ⟨py "identity-management", py "org.t2linux.touchid.identity-management", true⟩),
   ("delete-one", ⟨py "identity-management", py "org.t2linux.touchid.identity-management", true⟩)]

/-- What the policy raises. -/
inductive PolicyError
  /-- `UserPolicyError`. -/
  | policy (message : String)
  /-- `TypeError`. -/
  | typeError
  deriving DecidableEq

structure CallerEvidence (φ : Type) where
  linuxUid : Value φ
  linuxAccountGeneration : Value φ
  authenticated : Value φ
  activeLocalSession : Value φ

structure OperationRequest (φ : Type) where
  operation : Value φ
  targetLinuxUid : Value φ
  operationId : Value φ
  linuxBootUuid : Value φ
  runtimeGeneration : Value φ
  observedMonotonicNs : Value φ
  modificationAllowed : Value φ

structure PolicyGrant (φ : Type) where
  authorizationId : Value φ
  action : Value φ
  callerLinuxUid : Value φ
  linuxAccountGeneration : Value φ
  targetLinuxUid : Value φ
  mappingGeneration : Value φ
  operationId : Value φ
  linuxBootUuid : Value φ
  runtimeGeneration : Value φ
  issuedMonotonicNs : Value φ
  expiresMonotonicNs : Value φ
  authorized : Value φ

structure PolicyBinding (φ : Type) where
  mappingGeneration : Value φ
  linuxAccountGeneration : Value φ
  operationId : Value φ
  linuxBootUuid : Value φ
  runtimeGeneration : Value φ
  expiresMonotonicNs : Value φ
  callerLinuxUid : Value φ
  targetLinuxUid : Value φ
  capability : Value φ
  operationAuthorizationId : Value φ
  activationAuthorizationId : Value φ

/-- The states of a decision. -/
inductive PolicyState
  | delegationDisabled
  | callerSessionDenied
  | mappingOrCapabilityDenied
  | callerAccountGenerationMismatch
  | operationAuthorizationRequired
  | operationAuthorizationBindingMismatch
  | operationPolicyDenied
  | fingerprintModificationDisabled
  | targetQuarantined
  | authorized
  | activationAuthorizationRequired
  | activationAuthorizationBindingMismatch
  | activationPolicyDenied
  | activationAuthorized
  | targetNotReady
  deriving DecidableEq

def PolicyState.text : PolicyState → String
  | delegationDisabled => "delegation-disabled"
  | callerSessionDenied => "caller-session-denied"
  | mappingOrCapabilityDenied => "mapping-or-capability-denied"
  | callerAccountGenerationMismatch => "caller-account-generation-mismatch"
  | operationAuthorizationRequired => "operation-authorization-required"
  | operationAuthorizationBindingMismatch => "operation-authorization-binding-mismatch"
  | operationPolicyDenied => "operation-policy-denied"
  | fingerprintModificationDisabled => "fingerprint-modification-disabled"
  | targetQuarantined => "target-quarantined"
  | authorized => "authorized"
  | activationAuthorizationRequired => "activation-authorization-required"
  | activationAuthorizationBindingMismatch => "activation-authorization-binding-mismatch"
  | activationPolicyDenied => "activation-policy-denied"
  | activationAuthorized => "activation-authorized"
  | targetNotReady => "target-not-ready"

structure UserPolicyDecision (φ : Type) where
  state : PolicyState
  operation : Value φ
  policyAction : PyStr
  operationPermitted : Bool := false
  activationRequired : Bool := false
  activationPermitted : Bool := false
  readinessState : Option ReadinessState := none
  quarantine : Bool := false
  selectedMapping : Option UserMapping := none
  binding : Option (PolicyBinding φ) := none

/-! ## The tests of the fields -/

section Program

variable {φ : Type}

/-- `except UserMappingError as error: raise UserPolicyError(str(error))`. -/
def policyOf {α : Type} (found : Except UserMappingError α) : Except PolicyError α :=
  found.mapError fun error => .policy error.message

/-- `_canonical_uuid`, which is that of the mapping. -/
def policyUuid (value : Value φ) (label : String) : Except PolicyError PyStr :=
  policyOf (canonicalUuid value label)

/-- `_uid`. -/
def policyUid (value : Value φ) (label : String) : Except PolicyError Int :=
  policyOf (unsigned value label 1)

/-- `_digest`. -/
def policyDigest (value : Value φ) (label : String) : Except PolicyError PyStr :=
  policyOf (sha256Text value label)

/-- `_monotonic`. -/
def monotonic (value : Value φ) (label : String) : Except PolicyError Int :=
  match value with
  | .int n =>
    if 0 ≤ n ∧ n < 2 ^ 63 then .ok n
    else .error (.policy (label ++ " is outside the monotonic-time range"))
  | _ => .error (.policy (label ++ " is outside the monotonic-time range"))

/-- The policy of an operation. -/
def policyNamed (operation : Value φ) : Option OperationPolicy :=
  (operationPolicies.find? fun named => operation.isStr (py named.1)).map Prod.snd

/-- `_validate_caller`. -/
def validateCaller (caller : CallerEvidence φ) : Except PolicyError Unit := do
  let _ ← policyUid caller.linuxUid "caller Linux UID"
  let _ ← policyDigest caller.linuxAccountGeneration "caller account generation"
  raiseIf (¬ isBool caller.authenticated ∨ ¬ isBool caller.activeLocalSession)
    (.policy "caller authentication state must be Boolean")

/-- `_validate_request`. -/
def validateRequest (request : OperationRequest φ) : Except PolicyError OperationPolicy := do
  raiseIf (¬ isHashable request.operation) .typeError
  match policyNamed request.operation with
  | none => .error (.policy "operation is unsupported")
  | some policy => do
    let _ ← policyUid request.targetLinuxUid "target Linux UID"
    let _ ← policyUuid request.operationId "operation ID"
    let _ ← policyUuid request.linuxBootUuid "Linux boot UUID"
    let _ ← policyUuid request.runtimeGeneration "runtime generation"
    let _ ← monotonic request.observedMonotonicNs "observation time"
    raiseIf (¬ isBool request.modificationAllowed) (.policy "modification policy must be Boolean")
    return policy

/-- `_validate_grant`. -/
def validateGrant (grant : PolicyGrant φ) (request : OperationRequest φ) : Except PolicyError Unit := do
  let _ ← policyUuid grant.authorizationId "authorization ID"
  raiseIf (¬ isText grant.action) (.policy "policy action is invalid")
  let _ ← policyUid grant.callerLinuxUid "grant caller Linux UID"
  let _ ← policyDigest grant.linuxAccountGeneration "grant account generation"
  let _ ← policyUid grant.targetLinuxUid "grant target Linux UID"
  let _ ← policyDigest grant.mappingGeneration "grant mapping generation"
  let _ ← policyUuid grant.operationId "grant operation ID"
  let _ ← policyUuid grant.linuxBootUuid "grant Linux boot UUID"
  let _ ← policyUuid grant.runtimeGeneration "grant runtime generation"
  let issued ← monotonic grant.issuedMonotonicNs "grant issue time"
  let expires ← monotonic grant.expiresMonotonicNs "grant expiry time"
  raiseIf (expires ≤ issued ∨ maxPolicyLifetimeNs < expires - issued
      ∨ ¬ (issued ≤ intOf request.observedMonotonicNs ∧ intOf request.observedMonotonicNs ≤ expires))
    (.policy "policy grant is expired, premature, or overlong")
  raiseIf (¬ isBool grant.authorized) (.policy "policy grant decision must be Boolean")

variable [PyFloat φ]

/-- `_grant_bound`. -/
def grantBound (grant : PolicyGrant φ) (action : PyStr) (caller : CallerEvidence φ)
    (request : OperationRequest φ) (mappingGeneration : PyStr) : Bool :=
  !differ grant.action (.str action)
    && !differ grant.callerLinuxUid caller.linuxUid
    && !differ grant.linuxAccountGeneration caller.linuxAccountGeneration
    && !differ grant.targetLinuxUid request.targetLinuxUid
    && !differ grant.mappingGeneration (.str mappingGeneration)
    && !differ grant.operationId request.operationId
    && !differ grant.linuxBootUuid request.linuxBootUuid
    && !differ grant.runtimeGeneration request.runtimeGeneration

/-! ## The decision -/

/-- `_decision`, with its defaults. -/
def decisionOf (request : OperationRequest φ) (policy : OperationPolicy) (state : PolicyState) :
    UserPolicyDecision φ where
  state
  operation := request.operation
  policyAction := policy.action

/-- `_binding`. -/
def bindingOf (set : UserMappingSet) (request : OperationRequest φ) (caller : CallerEvidence φ)
    (policy : OperationPolicy) (operationGrant : PolicyGrant φ) (activationGrant : Option (PolicyGrant φ)) :
    PolicyBinding φ where
  mappingGeneration := .str set.generation
  linuxAccountGeneration := caller.linuxAccountGeneration
  operationId := request.operationId
  linuxBootUuid := request.linuxBootUuid
  runtimeGeneration := request.runtimeGeneration
  expiresMonotonicNs :=
    match activationGrant with
    | some activationGrant =>
      .int (min (intOf operationGrant.expiresMonotonicNs) (intOf activationGrant.expiresMonotonicNs))
    | none => operationGrant.expiresMonotonicNs
  callerLinuxUid := caller.linuxUid
  targetLinuxUid := request.targetLinuxUid
  capability := .str policy.capability
  operationAuthorizationId := operationGrant.authorizationId
  activationAuthorizationId :=
    match activationGrant with
    | some activationGrant => activationGrant.authorizationId
    | none => .none

section Authorize

variable (set : UserMappingSet) (request : OperationRequest φ) (caller : CallerEvidence φ)
  (policy : OperationPolicy) (selected : UserMapping)

/-- The states that an activation may change. -/
def activatableStates : List ReadinessState := [.aliasAbsent, .deviceLocked, .beforeFirstUnlock]

/-- The decision on a valid activation grant. -/
def decideActivation (readiness : ReadinessState) (operationGrant activationGrant : PolicyGrant φ) :
    UserPolicyDecision φ :=
  if ¬ grantBound activationGrant activateAction caller request set.generation then
    { decisionOf request policy .activationAuthorizationBindingMismatch with
      readinessState := some readiness }
  else if ¬ activationGrant.authorized.isTrue then
    { decisionOf request policy .activationPolicyDenied with readinessState := some readiness }
  else
    { decisionOf request policy .activationAuthorized with
      selectedMapping := some selected, readinessState := some readiness, activationRequired := true,
      activationPermitted := true,
      binding := some (bindingOf set request caller policy operationGrant (some activationGrant)) }

/-- The part of `authorize` for a target that may be activated. -/
def authorizeActivation (readiness : ReadinessState) (operationGrant : PolicyGrant φ) :
    Option (PolicyGrant φ) → Except PolicyError (UserPolicyDecision φ)
  | none => .ok
    { decisionOf request policy .activationAuthorizationRequired with
      selectedMapping := some selected, readinessState := some readiness, activationRequired := true }
  | some activationGrant => do
    validateGrant activationGrant request
    return decideActivation set request caller policy selected readiness operationGrant activationGrant

/-- The part behind the readiness of the target. -/
def authorizeReadiness (readiness : ReadinessDecision) (operationGrant : PolicyGrant φ)
    (activationGrant : Option (PolicyGrant φ)) : Except PolicyError (UserPolicyDecision φ) :=
  if readiness.quarantine then .ok
    { decisionOf request policy .targetQuarantined with
      readinessState := some readiness.state, quarantine := true }
  else if readiness.state = .ready then .ok
    { decisionOf request policy .authorized with
      selectedMapping := some selected, readinessState := some readiness.state, operationPermitted := true,
      binding := some (bindingOf set request caller policy operationGrant none) }
  else if readiness.state ∈ activatableStates then
    authorizeActivation set request caller policy selected readiness.state operationGrant activationGrant
  else .ok
    { decisionOf request policy .targetNotReady with
      selectedMapping := some selected, readinessState := some readiness.state }

variable (persistent : PersistentEvidence φ) (aliased : AliasEvidence φ)

/-- The part for a valid operation grant. -/
def authorizeGranted (operationGrant : PolicyGrant φ) (activationGrant : Option (PolicyGrant φ)) :
    Except PolicyError (UserPolicyDecision φ) :=
  if ¬ grantBound operationGrant policy.action caller request set.generation then
    .ok (decisionOf request policy .operationAuthorizationBindingMismatch)
  else if ¬ operationGrant.authorized.isTrue then .ok (decisionOf request policy .operationPolicyDenied)
  else if policy.mutation ∧ ¬ request.modificationAllowed.isTrue then .ok
    { decisionOf request policy .fingerprintModificationDisabled with selectedMapping := some selected }
  else
    match assess selected policy.capability persistent aliased with
    | .error _ => .error (.policy "target readiness evidence is invalid")
    | .ok readiness =>
      authorizeReadiness set request caller policy selected readiness operationGrant activationGrant

/-- The part for a mapping that was found. -/
def authorizeSelected (operationGrant activationGrant : Option (PolicyGrant φ)) :
    Except PolicyError (UserPolicyDecision φ) :=
  if differ caller.linuxAccountGeneration (.str selected.linuxAccountGeneration) then .ok
    { decisionOf request policy .callerAccountGenerationMismatch with quarantine := true }
  else
    match operationGrant with
    | none => .ok
      { decisionOf request policy .operationAuthorizationRequired with selectedMapping := some selected }
    | some operationGrant => do
      validateGrant operationGrant request
      authorizeGranted set request caller policy selected persistent aliased operationGrant activationGrant

/-- The part for a valid request of a valid caller. -/
def authorizeCaller (operationGrant activationGrant : Option (PolicyGrant φ)) :
    Except PolicyError (UserPolicyDecision φ) :=
  if differ caller.linuxUid request.targetLinuxUid then
    .ok (decisionOf request policy .delegationDisabled)
  else if ¬ caller.authenticated.isTrue ∨ ¬ caller.activeLocalSession.isTrue then
    .ok (decisionOf request policy .callerSessionDenied)
  else
    match set.resolve (intOf request.targetLinuxUid) policy.capability with
    | .error _ => .ok (decisionOf request policy .mappingOrCapabilityDenied)
    | .ok selected =>
      authorizeSelected set request caller policy selected persistent aliased operationGrant activationGrant

def authorize (operationGrant activationGrant : Option (PolicyGrant φ)) :
    Except PolicyError (UserPolicyDecision φ) := do
  let policy ← validateRequest request
  validateCaller caller
  authorizeCaller set request caller policy persistent aliased operationGrant activationGrant

end Authorize

/-! ## The use of a decision -/

/-- The tests of a binding, behind which it has an expiry. -/
def validateBinding (binding : PolicyBinding φ) : Except PolicyError Unit := do
  let _ ← policyDigest binding.mappingGeneration "binding mapping generation"
  let _ ← policyDigest binding.linuxAccountGeneration "binding account generation"
  let _ ← policyUuid binding.operationId "binding operation ID"
  let _ ← policyUuid binding.linuxBootUuid "binding Linux boot UUID"
  let _ ← policyUuid binding.runtimeGeneration "binding runtime generation"
  let expiry ← monotonic binding.expiresMonotonicNs "binding expiry time"
  raiseIf (expiry = 0) (.policy "binding expiry time is invalid")
  let _ ← policyUid binding.callerLinuxUid "binding caller Linux UID"
  let _ ← policyUid binding.targetLinuxUid "binding target Linux UID"
  let _ ← policyUuid binding.operationAuthorizationId "binding operation authorization ID"
  if isNone binding.activationAuthorizationId then .ok ()
  else do
    let _ ← policyUuid binding.activationAuthorizationId "binding activation authorization ID"

/-- The state that the use of a decision expects. -/
def expectedState (activation : Bool) : PolicyState := if activation then .activationAuthorized else .authorized

/-- The last test of `require_bound_authority`, of a decision whose operation has a policy. -/
def unbound (decision : UserPolicyDecision φ) (binding : PolicyBinding φ) (policy : OperationPolicy)
    (set : UserMappingSet) (selected : UserMapping) (capability : PyStr)
    (linuxBootUuid runtimeGeneration : Value φ) (observedMonotonicNs : Int) (activation : Bool) : Bool :=
  decision.state != expectedState activation
    || decision.selectedMapping != some selected
    || decision.policyAction != policy.action
    || differ binding.capability (.str policy.capability)
    || differ binding.mappingGeneration (.str set.generation)
    || differ binding.linuxAccountGeneration (.str selected.linuxAccountGeneration)
    || differ binding.linuxBootUuid linuxBootUuid
    || differ binding.runtimeGeneration runtimeGeneration
    || decide (intOf binding.expiresMonotonicNs < observedMonotonicNs)
    || differ binding.targetLinuxUid (.int selected.linuxUid)
    || differ binding.callerLinuxUid (.int selected.linuxUid)
    || differ binding.capability (.str capability)
    || decide (selected ∉ set.mappings)
    || (activation && (!decision.activationPermitted || decision.operationPermitted))
    || (!activation && (!decision.operationPermitted || decision.activationPermitted))
    || (activation && isNone binding.activationAuthorizationId)

/-- `require_bound_authority`. -/
def requireBoundAuthority (decision : UserPolicyDecision φ) (set : UserMappingSet) (selected : UserMapping)
    (capability : PyStr) (linuxBootUuid runtimeGeneration observedMonotonicNs : Value φ)
    (activation : Bool) : Except PolicyError (Value φ) := do
  let _ ← policyUuid linuxBootUuid "Linux boot UUID"
  let _ ← policyUuid runtimeGeneration "runtime generation"
  let observed ← monotonic observedMonotonicNs "authority consumption time"
  -- `OPERATION_POLICIES.get` hashes the operation
  raiseIf (¬ isHashable decision.operation) .typeError
  match decision.binding with
  | none => .error (.policy "policy decision has no typed binding")
  | some binding =>
    match validateBinding binding with
    | .error _ => .error (.policy "policy decision binding is malformed")
    | .ok () =>
      match policyNamed decision.operation with
      | none => .error (.policy "policy decision is not bound to this operation")
      | some policy => do
        raiseIf (unbound decision binding policy set selected capability linuxBootUuid runtimeGeneration
            observed activation)
          (.policy "policy decision is not bound to this operation")
        return binding.operationId

end Program

end T2TouchId.User
