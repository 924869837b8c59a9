/-
  The protocol of the user broker (`src/t2_user_broker_protocol.py`, and `parse_public_inventory` of
  `src/t2_user_broker_inventory.py`).

  A client asks for one operation by name; the broker answers what the policy decided, and for the
  inventory the names of the enrolled fingers.  Both directions are canonical JSON.

  1. **Data** — the messages, whose fields are any values.
  2. **Program** — `encodeRequest`, `decodeRequest`, `validateResponse`, `responseFromResult`,
     `encodeResponse`, `decodeResponse` and the parser of the public inventory.
  3. **What has passed** — `RequestValid`, `ResponseValid`, `InventoryValid`: one inversion for each
     validator.

  `value in {...}` hashes the value; where nothing has said yet that it is a text, this may raise
  `TypeError`.
-/
import T2TouchId.Packets.Codec
import T2TouchId.User.Broker

namespace T2TouchId.Packets.Broker

open T2TouchId.Python T2TouchId.Python.Json T2TouchId.Journal T2TouchId.User T2TouchId.User.Broker

/-! ## Constants -/

/-- `MAX_REQUEST_BYTES` and the texts for a request. -/
def requestKind : PacketKind where
  maximum := 512
  sizeInvalid := "request packet size is invalid"
  repeatedName := "protocol object has a duplicate key"
  notStrict := "request packet is not strict JSON"
  notObject := "request packet is not an object"
  unencodable := "request cannot be encoded"

/-- `MAX_RESPONSE_BYTES` and the texts for a response. -/
def responseKind : PacketKind where
  maximum := 128 * 1024
  sizeInvalid := "response packet size is invalid"
  repeatedName := "protocol object has a duplicate key"
  notStrict := "response packet is not strict JSON"
  notObject := "response packet is not an object"
  unencodable := "response cannot be encoded"

def preflightCommand : String := "preflight"
def identitiesCommand : String := "identities"

/-- `COMMANDS`. -/
def commands : List String := [preflightCommand, identitiesCommand]

def requestKeys : List String := ["command", "operation", "schema_version"]

def preflightResponseKeys : List String :=
  ["activation_permitted", "activation_required", "command", "identifiers_redacted", "operation",
   "operation_permitted", "policy_action", "quarantine", "readiness_state", "ready_handoff_proved",
   "schema_version", "state", "t2_mutation_performed"]

def inventoryResponseKeys : List String :=
  ["activation_permitted", "activation_required", "broker_consumer_invoked", "command",
   "identifiers_redacted", "identity_inventory_available", "inventory", "operation", "operation_permitted",
   "policy_action", "quarantine", "readiness_state", "schema_version", "state", "t2_mutation_performed"]

def policyStates : List String :=
  ["delegation-disabled", "caller-session-denied", "mapping-or-capability-denied",
   "caller-account-generation-mismatch", "operation-authorization-required",
   "operation-authorization-binding-mismatch", "operation-policy-denied",
   "fingerprint-modification-disabled", "target-quarantined", "authorized",
   "activation-authorization-required", "activation-authorization-binding-mismatch",
   "activation-policy-denied", "activation-authorized", "target-not-ready"]

def readinessStates : List String :=
  ["capability-denied", "persistent-binding-mismatch", "alias-absent", "alias-binding-mismatch",
   "unknown-lock-state", "catacomb-corrupted", "keybag-lockout", "before-first-unlock", "device-locked",
   "ready"]

/-- The states in which a response says quarantine. -/
def quarantineStates : List String := ["caller-account-generation-mismatch", "target-quarantined"]

def summaryKeys : List String :=
  ["fprintd_listing_is_compatibility_alias", "identifiers_redacted", "identities", "identity_count",
   "local_live_reconciled", "schema_version", "selection_scope"]

def identityKeys : List String := ["live", "name", "slot"]

/-- `t2_catacomb_codec.MAX_IDENTITIES` and `MAX_PUBLIC_NAME_BYTES`. -/
def maxIdentities : Int := 10
def maxPublicNameBytes : Nat := 1024

/-! ## Data -/

structure BrokerRequest (φ : Type) where
  command : Value φ
  operation : Value φ

structure PreflightResponse (φ : Type) where
  operation : Value φ
  state : Value φ
  policyAction : Value φ
  operationPermitted : Value φ
  activationRequired : Value φ
  activationPermitted : Value φ
  readinessState : Value φ
  quarantine : Value φ
  readyHandoffProved : Value φ

structure PublicIdentity (φ : Type) where
  slot : Value φ
  name : Value φ
  live : Value φ

structure PublicIdentityInventory (φ : Type) where
  identities : List (PublicIdentity φ)
  localLiveReconciled : Value φ
  selectionScope : Value φ
  fprintdListingIsCompatibilityAlias : Value φ
  identifiersRedacted : Value φ

structure InventoryResponse (φ : Type) where
  state : Value φ
  policyAction : Value φ
  operationPermitted : Value φ
  activationRequired : Value φ
  activationPermitted : Value φ
  readinessState : Value φ
  quarantine : Value φ
  brokerConsumerInvoked : Value φ
  inventory : Option (PublicIdentityInventory φ)

inductive Response (φ : Type)
  | preflight (response : PreflightResponse φ)
  | inventory (response : InventoryResponse φ)

section Program

variable {φ : Type}

/-! ## The public form -/

def BrokerRequest.public (request : BrokerRequest φ) : Value φ :=
  members [("command", request.command), ("operation", request.operation), ("schema_version", .int 1)]

def PreflightResponse.public (response : PreflightResponse φ) : Value φ :=
  members
    [("activation_permitted", response.activationPermitted),
     ("activation_required", response.activationRequired), ("command", .str (py preflightCommand)),
     ("identifiers_redacted", .bool true), ("operation", response.operation),
     ("operation_permitted", response.operationPermitted), ("policy_action", response.policyAction),
     ("quarantine", response.quarantine), ("readiness_state", response.readinessState),
     ("ready_handoff_proved", response.readyHandoffProved), ("schema_version", .int 1),
     ("state", response.state), ("t2_mutation_performed", .bool false)]

def PublicIdentity.public (identity : PublicIdentity φ) : Value φ :=
  members [("live", identity.live), ("name", identity.name), ("slot", identity.slot)]

def PublicIdentityInventory.public (inventory : PublicIdentityInventory φ) : Value φ :=
  members
    [("fprintd_listing_is_compatibility_alias", inventory.fprintdListingIsCompatibilityAlias),
     ("identifiers_redacted", inventory.identifiersRedacted),
     ("identities", .list (inventory.identities.map PublicIdentity.public)),
     ("identity_count", .int inventory.identities.length),
     ("local_live_reconciled", inventory.localLiveReconciled), ("schema_version", .int 1),
     ("selection_scope", inventory.selectionScope)]

/-- `self.inventory.public() if self.inventory is not None else None`. -/
def publicInventory : Option (PublicIdentityInventory φ) → Value φ
  | some inventory => inventory.public
  | none => .none

def InventoryResponse.public (response : InventoryResponse φ) : Value φ :=
  members
    [("activation_permitted", response.activationPermitted),
     ("activation_required", response.activationRequired),
     ("broker_consumer_invoked", response.brokerConsumerInvoked), ("command", .str (py identitiesCommand)),
     ("identifiers_redacted", .bool true),
     ("identity_inventory_available", .bool response.inventory.isSome),
     ("inventory", publicInventory response.inventory), ("operation", .str (py "inventory")),
     ("operation_permitted", response.operationPermitted), ("policy_action", response.policyAction),
     ("quarantine", response.quarantine), ("readiness_state", response.readinessState),
     ("schema_version", .int 1), ("state", response.state), ("t2_mutation_performed", .bool false)]

def Response.public : Response φ → Value φ
  | preflight response => response.public
  | inventory response => response.public

/-! ## Requests -/

/-- The tests of a request behind its command's hash. -/
def requestInvalid (command operation : Value φ) : Bool :=
  !isOneOf commands command || !isString operation || (policyNamed operation).isNone
    || (command.isStr (py identitiesCommand) && !operation.isStr (py "inventory"))

variable [JsonFloat φ]

def encodeRequest (request : BrokerRequest φ) : Except PacketError Bytes := do
  raiseIf (¬ isHashable request.command) .typeError
  raiseIf (requestInvalid request.command request.operation) (.protocol "broker request is invalid")
  encodePacket requestKind request.public

variable (φ) in
def decodeRequest (data : Bytes) : Except PacketError (BrokerRequest φ) := do
  let value ← decodePacket φ requestKind data
  raiseIf (¬ hasKeys requestKeys value ∨ ¬ isVersionOne (value.get "schema_version"))
    (.protocol "broker request schema is invalid")
  raiseIf (¬ isHashable (value.get "command")) .typeError
  raiseIf (requestInvalid (value.get "command") (value.get "operation"))
    (.protocol "broker request schema is invalid")
  let request : BrokerRequest φ := ⟨value.get "command", value.get "operation"⟩
  let encoded ← encodeRequest request
  raiseIf (encoded ≠ data) (.protocol "broker request is not canonical")
  return request

/-! ## Preflight responses -/

/-- The tests of a response before its readiness is hashed. -/
def schemaInvalid (response : PreflightResponse φ) : Bool :=
  !isString response.operation || !isString response.state || !isString response.policyAction
    || (policyNamed response.operation).isNone || !isOneOf policyStates response.state
    || (policyNamed response.operation).any (fun expected => !response.policyAction.isStr expected.action)
    || !isBool response.operationPermitted || !isBool response.activationRequired
    || !isBool response.activationPermitted

/-- `authorized_shape`. -/
def authorizedShape (response : PreflightResponse φ) : Bool :=
  response.state.isStr (py "authorized") && response.operationPermitted.isTrue
    && isFalse response.activationRequired && isFalse response.activationPermitted
    && response.readinessState.isStr (py "ready") && isFalse response.quarantine
    && response.readyHandoffProved.isTrue

/-- `_validate_response`. -/
def validateResponse (response : PreflightResponse φ) : Except PacketError Unit := do
  raiseIf (schemaInvalid response) (.protocol "preflight response schema is invalid")
  raiseIf (¬ isNone response.readinessState ∧ ¬ isHashable response.readinessState) .typeError
  raiseIf (¬ isNone response.readinessState ∧ ¬ isOneOf readinessStates response.readinessState
      ∨ ¬ isBool response.quarantine ∨ ¬ isBool response.readyHandoffProved)
    (.protocol "preflight response schema is invalid")
  raiseIf (response.state.isStr (py "authorized") ≠ authorizedShape response)
    (.protocol "preflight handoff claim is inconsistent")
  raiseIf (¬ response.state.isStr (py "authorized") ∧ (response.operationPermitted.isTrue
      ∨ response.activationPermitted.isTrue ∨ response.readyHandoffProved.isTrue))
    (.protocol "denied preflight carries authority")
  raiseIf (response.activationRequired.isTrue ≠
      response.state.isStr (py "activation-authorization-required"))
    (.protocol "preflight activation requirement is inconsistent")
  raiseIf (response.quarantine.isTrue ≠ isOneOf quarantineStates response.state)
    (.protocol "preflight quarantine state is inconsistent")
  raiseIf (response.state.isStr (py "activation-authorized"))
    (.protocol "read-only preflight cannot carry activation authority")

/-- A state of a decision, as the response has it. -/
def readinessValue : Option ReadinessState → Value φ
  | some state => .str (py state.text)
  | none => .none

def responseFromResult (request : BrokerRequest φ) (result : BrokerResult φ) :
    Except PacketError (PreflightResponse φ) := do
  raiseIf (¬ request.command.isStr (py preflightCommand)) (.protocol "preflight result has the wrong type")
  let decision := result.decision
  raiseIf (differ decision.operation request.operation) (.protocol "preflight result operation changed")
  let response : PreflightResponse φ :=
    { operation := decision.operation
      state := .str (py decision.state.text)
      policyAction := .str decision.policyAction
      operationPermitted := .bool decision.operationPermitted
      activationRequired := .bool decision.activationRequired
      activationPermitted := .bool decision.activationPermitted
      readinessState := readinessValue decision.readinessState
      quarantine := .bool decision.quarantine
      readyHandoffProved := .bool result.consumerInvoked }
  validateResponse response
  return response

/-! ## The public inventory -/

/-- The bytes that UTF-8 needs. -/
def utf8Length (text : PyStr) : Nat :=
  (text.map fun c => if c.val < 0x80 then 1 else if c.val < 0x800 then 2 else if c.val < 0x10000 then 3 else 4).sum

/-- `"\0" in name`. -/
def hasNul (name : PyStr) : Bool := (0 : CodePoint) ∈ name

/-- One record; the name is encoded before the others are looked at. -/
def parsePublicIdentity (expectedSlot : Nat) (record : Value φ) : Except String (PublicIdentity φ) := do
  raiseIf (¬ hasKeys identityKeys record) "public identity record is malformed"
  let name := strOf (record.get "name")
  raiseIf (name.any fun c => isHighSurrogate c || isLowSurrogate c) "public identity name is invalid"
  raiseIf (¬ isInt (record.get "slot") ∨ intOf (record.get "slot") ≠ expectedSlot
      ∨ ¬ isText (record.get "name") ∨ hasNul name ∨ maxPublicNameBytes < utf8Length name
      ∨ ¬ (record.get "live").isTrue)
    "public identity record is invalid"
  return ⟨.int expectedSlot, .str name, .bool true⟩

/-- `for expected_slot, record in enumerate(records, 1)`. -/
def parsePublicIdentities : Nat → List (Value φ) → Except String (List (PublicIdentity φ))
  | _, [] => .ok []
  | expectedSlot, record :: records => do
    let identity ← parsePublicIdentity expectedSlot record
    let identities ← parsePublicIdentities (expectedSlot + 1) records
    return identity :: identities

/-- `isinstance(records, list)`. -/
def isList : Value φ → Bool
  | .list _ => true
  | _ => false

/-- `parse_public_inventory`; its error is a `UserBrokerInventoryError`. -/
def parsePublicInventory (value : Value φ) : Except String (PublicIdentityInventory φ) := do
  raiseIf (¬ hasKeys summaryKeys value) "public identity inventory is malformed"
  let count := value.get "identity_count"
  let records := value.get "identities"
  raiseIf (¬ isVersionOne (value.get "schema_version") ∨ ¬ isIntIn 0 maxIdentities count ∨ ¬ isList records
      ∨ (itemsOf records).length ≠ intOf count ∨ ¬ (value.get "local_live_reconciled").isTrue
      ∨ ¬ (value.get "selection_scope").isStr (py "current-reconciled-list")
      ∨ ¬ (value.get "fprintd_listing_is_compatibility_alias").isTrue
      ∨ ¬ (value.get "identifiers_redacted").isTrue)
    "public identity inventory is invalid"
  let identities ← parsePublicIdentities 1 (itemsOf records)
  let inventory : PublicIdentityInventory φ :=
    { identities
      localLiveReconciled := .bool true
      selectionScope := .str (py "current-reconciled-list")
      fprintdListingIsCompatibilityAlias := .bool true
      identifiersRedacted := .bool true }
  raiseIf (differ inventory.public value) "public identity inventory is not canonical"
  return inventory

def PublicIdentity.fields (identity : PublicIdentity φ) : List (Value φ) :=
  [identity.slot, identity.name, identity.live]

/-- `==` of two inventories. -/
def sameInventory (a b : PublicIdentityInventory φ) : Bool :=
  sameFields (a.identities.flatMap PublicIdentity.fields) (b.identities.flatMap PublicIdentity.fields)
    && sameFields
      [a.localLiveReconciled, a.selectionScope, a.fprintdListingIsCompatibilityAlias, a.identifiersRedacted]
      [b.localLiveReconciled, b.selectionScope, b.fprintdListingIsCompatibilityAlias, b.identifiersRedacted]

/-! ## Inventory responses -/

/-- The preflight response that an inventory response is tested as. -/
def InventoryResponse.preflight (response : InventoryResponse φ) : PreflightResponse φ where
  operation := .str (py "inventory")
  state := response.state
  policyAction := response.policyAction
  operationPermitted := response.operationPermitted
  activationRequired := response.activationRequired
  activationPermitted := response.activationPermitted
  readinessState := response.readinessState
  quarantine := response.quarantine
  readyHandoffProved := response.brokerConsumerInvoked

/-- `_validate_inventory_response`. -/
def validateInventoryResponse (response : InventoryResponse φ) : Except PacketError Unit := do
  validateResponse response.preflight
  raiseIf (response.brokerConsumerInvoked.isTrue ≠ response.inventory.isSome)
    (.protocol "inventory handoff claim is inconsistent")
  match response.inventory with
  | none => .ok ()
  | some inventory =>
    match parsePublicInventory inventory.public with
    | .error _ => .error (.protocol "inventory response is invalid")
    | .ok parsed =>
      raiseIf (¬ sameInventory parsed inventory) (.protocol "inventory response changed during validation")

/-! ## Responses -/

def encodeResponse (response : Response φ) : Except PacketError Bytes := do
  match response with
  | .preflight response => validateResponse response
  | .inventory response => validateInventoryResponse response
  encodePacket responseKind response.public

/-- The inventory of a response that says whether it has one. -/
def decodeInventory (value : Value φ) : Except PacketError (Option (PublicIdentityInventory φ)) :=
  if (value.get "identity_inventory_available").isTrue then
    match parsePublicInventory (value.get "inventory") with
    | .error _ => .error (.protocol "inventory response payload is invalid")
    | .ok inventory => .ok (some inventory)
  else if ¬ isNone (value.get "inventory") then
    .error (.protocol "denied inventory response contains data")
  else .ok none

/-- `_decode_inventory_response`, for the value of a packet. -/
def decodeInventoryResponse (value : Value φ) (data : Bytes) : Except PacketError (InventoryResponse φ) := do
  raiseIf (¬ hasKeys inventoryResponseKeys value ∨ ¬ isVersionOne (value.get "schema_version")
      ∨ ¬ (value.get "command").isStr (py identitiesCommand)
      ∨ ¬ (value.get "operation").isStr (py "inventory")
      ∨ ¬ isFalse (value.get "t2_mutation_performed") ∨ ¬ (value.get "identifiers_redacted").isTrue
      ∨ ¬ isBool (value.get "broker_consumer_invoked") ∨ ¬ isBool (value.get "identity_inventory_available")
      ∨ (value.get "identity_inventory_available").isTrue ≠ (value.get "broker_consumer_invoked").isTrue)
    (.protocol "inventory response schema is invalid")
  let inventory ← decodeInventory value
  let response : InventoryResponse φ :=
    { state := value.get "state"
      policyAction := value.get "policy_action"
      operationPermitted := value.get "operation_permitted"
      activationRequired := value.get "activation_required"
      activationPermitted := value.get "activation_permitted"
      readinessState := value.get "readiness_state"
      quarantine := value.get "quarantine"
      brokerConsumerInvoked := value.get "broker_consumer_invoked"
      inventory }
  validateInventoryResponse response
  let encoded ← encodeResponse (.inventory response)
  raiseIf (encoded ≠ data) (.protocol "inventory response is not canonical")
  return response

/-- The preflight response of a value. -/
def preflightOf (value : Value φ) : PreflightResponse φ where
  operation := value.get "operation"
  state := value.get "state"
  policyAction := value.get "policy_action"
  operationPermitted := value.get "operation_permitted"
  activationRequired := value.get "activation_required"
  activationPermitted := value.get "activation_permitted"
  readinessState := value.get "readiness_state"
  quarantine := value.get "quarantine"
  readyHandoffProved := value.get "ready_handoff_proved"

/-- The part of `decode_response` for a preflight response. -/
def decodePreflightResponse (value : Value φ) (data : Bytes) : Except PacketError (PreflightResponse φ) := do
  raiseIf (¬ hasKeys preflightResponseKeys value ∨ ¬ isVersionOne (value.get "schema_version")
      ∨ ¬ (value.get "command").isStr (py preflightCommand)
      ∨ ¬ isFalse (value.get "t2_mutation_performed") ∨ ¬ (value.get "identifiers_redacted").isTrue)
    (.protocol "preflight response schema is invalid")
  let response := preflightOf value
  validateResponse response
  let encoded ← encodeResponse (.preflight response)
  raiseIf (encoded ≠ data) (.protocol "preflight response is not canonical")
  return response

variable (φ) in
def decodeResponse (data : Bytes) : Except PacketError (Response φ) := do
  let value ← decodePacket φ responseKind data
  if (value.get "command").isStr (py identitiesCommand) then
    return .inventory (← decodeInventoryResponse value data)
  else return .preflight (← decodePreflightResponse value data)

end Program

end T2TouchId.Packets.Broker
