/-
  What the broker's decoders and encoders let through.

  1. **Requests** — `encodeRequest_ok`; a request that was encoded is decoded to itself.
  2. **Responses** — `validateResponse_ok` and `validateInventoryResponse_ok` say all that a validator
     tests; `ResponseStrays` is the one place where it can raise something else.
  3. **The crux (`parsePublicInventory_public`)** — the parser of an inventory undoes its public form
     wherever it accepts it, so that the fields that it fills in itself are those that were given.
  4. **Results** — `decodeResponse_encodeResponse`, `own_decodeRequest`, `own_decodeResponse`.
-/
import T2TouchId.Packets.Broker

set_option linter.unusedSectionVars false

namespace T2TouchId.Packets.Broker

open T2TouchId.Python T2TouchId.Python.Json T2TouchId.Journal T2TouchId.User T2TouchId.User.Broker

section Messages

variable {φ : Type} [JsonFloat φ]

/-! ## Requests -/

/-- The operation has a policy. -/
theorem policyNamed_some {operation : Value φ} {policy : OperationPolicy} (h : policyNamed operation = some policy) :
    ∃ name, (name, policy) ∈ operationPolicies ∧ operation = .str (py name) := by
  obtain ⟨⟨name, found⟩, hfind, hpolicy⟩ := Option.map_eq_some_iff.mp h
  obtain rfl : found = policy := hpolicy
  have hname : operation.isStr (py name) = true := (List.find?_eq_some_iff_append.mp hfind).1
  exact ⟨name, List.mem_of_find?_eq_some hfind, isStr_iff.mp hname⟩

/-- The names of the operations can be written. -/
theorem isNative_operation {operation : Value φ} (h : (policyNamed operation).isSome = true) :
    isNative operation = true := by
  obtain ⟨policy, hpolicy⟩ := Option.isSome_iff_exists.mp h
  obtain ⟨name, hname, rfl⟩ := policyNamed_some hpolicy
  have hplain : ∀ named ∈ operationPolicies, noPairs (py named.1) = true := by decide
  exact hplain _ hname

/-- What the tests of a request say. -/
structure RequestValid (request : BrokerRequest φ) : Prop where
  command : isOneOf commands request.command = true
  operation : (policyNamed request.operation).isSome = true
  inventory : request.command.isStr (py identitiesCommand) = true → request.operation.isStr (py "inventory") = true

theorem requestInvalid_eq_false {command operation : Value φ} :
    requestInvalid command operation = false ↔ RequestValid ⟨command, operation⟩ := by
  simp only [requestInvalid, Bool.or_eq_false_iff, Bool.not_eq_false', Bool.and_eq_false_imp,
    Option.isNone_eq_false_iff]
  constructor
  · rintro ⟨⟨⟨hcommand, -⟩, hoperation⟩, hinventory⟩
    exact ⟨hcommand, hoperation, hinventory⟩
  · rintro ⟨hcommand, hoperation, hinventory⟩
    obtain ⟨policy, hpolicy⟩ := Option.isSome_iff_exists.mp hoperation
    obtain ⟨name, -, hname⟩ := policyNamed_some hpolicy
    exact ⟨⟨⟨hcommand, isString_iff.mpr ⟨_, hname⟩⟩, hoperation⟩, hinventory⟩

theorem RequestValid.hashable {request : BrokerRequest φ} (h : RequestValid request) :
    isHashable request.command = true := by
  obtain ⟨text, -, htext⟩ := isOneOf_iff.mp h.command
  rw [htext]
  rfl

theorem encodeRequest_ok {request : BrokerRequest φ} {data : Bytes} :
    encodeRequest request = .ok data ↔
      RequestValid request ∧ encodePacket requestKind request.public = .ok data := by
  rw [encodeRequest, raiseIf_ok, raiseIf_ok]
  constructor
  · rintro ⟨-, hvalid, hencode⟩
    exact ⟨requestInvalid_eq_false.mp (eq_false_of_ne_true hvalid), hencode⟩
  · rintro ⟨hvalid, hencode⟩
    refine ⟨not_not.mpr hvalid.hashable, ?_, hencode⟩
    rw [requestInvalid_eq_false.mpr hvalid]
    exact Bool.false_ne_true

theorem isNative_request {request : BrokerRequest φ} (h : RequestValid request) :
    isNative request.public = true := by
  refine isNative_members requestKeys rfl (by decide) (by decide) ?_
  simp only [List.forall_mem_cons]
  exact ⟨isNative_of_isOneOf h.command (by decide), isNative_operation h.operation, rfl, nofun⟩

/-- **A request that was encoded** is decoded to itself. -/
theorem decodeRequest_encodeRequest {request : BrokerRequest φ} {data : Bytes}
    (h : encodeRequest request = .ok data) : decodeRequest φ data = .ok request := by
  obtain ⟨hvalid, hencode⟩ := encodeRequest_ok.mp h
  have hget : ∀ name, request.public.get name = _ := fun name => get_members name _
  have hcommand : request.public.get "command" = request.command := hget _
  have hoperation : request.public.get "operation" = request.operation := hget _
  have hversion : request.public.get "schema_version" = .int 1 := hget _
  refine bind_eq_ok.mpr ⟨request.public, decodePacket_encodePacket hencode (isNative_request hvalid) rfl, ?_⟩
  rw [hcommand, hoperation, hversion]
  refine raiseIf_ok.mpr ⟨not_or.mpr ⟨not_not.mpr (hasKeys_members rfl), not_not.mpr rfl⟩, ?_⟩
  refine raiseIf_ok.mpr ⟨not_not.mpr hvalid.hashable, ?_⟩
  refine raiseIf_ok.mpr ⟨?_, ?_⟩
  · rw [requestInvalid_eq_false.mpr hvalid]
    exact Bool.false_ne_true
  · exact bind_eq_ok.mpr ⟨data, h, raiseIf_ok.mpr ⟨not_not.mpr rfl, rfl⟩⟩

/-- **A packet that was decoded** is encoded again. -/
theorem encodeRequest_decodeRequest {request : BrokerRequest φ} {data : Bytes}
    (h : decodeRequest φ data = .ok request) : encodeRequest request = .ok data := by
  obtain ⟨value, -, h⟩ := bind_ok h
  obtain ⟨-, h⟩ := raiseIf_ok.mp h
  obtain ⟨-, h⟩ := raiseIf_ok.mp h
  obtain ⟨-, h⟩ := raiseIf_ok.mp h
  obtain ⟨encoded, hencoded, h⟩ := bind_ok h
  obtain ⟨hsame, h⟩ := raiseIf_ok.mp h
  cases h
  exact hencoded.trans (congrArg Except.ok (not_not.mp hsame))

variable (φ) in
/-- The packet is a request with a command that has no hash. -/
def RequestStrays (data : Bytes) : Prop :=
  ∃ value : Value φ, decodePacket φ requestKind data = .ok value ∧
    (hasKeys requestKeys value = true ∧ isVersionOne (value.get "schema_version") = true) ∧
    isHashable (value.get "command") = false

theorem own_encodeRequest {request : BrokerRequest φ} :
    Own (encodeRequest request) ↔ isHashable request.command = true := by
  rw [encodeRequest, own_stray, own_refuse, not_not]
  exact and_iff_left fun _ => own_encodePacket

/-- **The decoder of a request** raises its own error, but on a command that has no hash. -/
theorem own_decodeRequest {data : Bytes} (hjson : LoadsJson φ data) :
    Own (decodeRequest φ data) ↔ ¬ RequestStrays φ data := by
  rw [decodeRequest, own_bind, and_iff_right (own_decodePacket hjson)]
  unfold RequestStrays
  rw [not_exists]
  refine forall_congr' fun value => ?_
  rw [not_and, not_and, Bool.not_eq_false]
  refine forall_congr' fun _ => ?_
  rw [own_refuse, not_or, not_not, not_not]
  refine forall_congr' fun _ => ?_
  rw [own_stray, not_not]
  refine and_iff_left_of_imp fun hhashable => ?_
  refine own_refuse.mpr fun _ => ?_
  refine own_bind.mpr ⟨own_encodeRequest.mpr hhashable, fun encoded _ => own_refuse.mpr fun _ => own_ok _⟩

/-! ## Preflight responses -/

/-- What the tests of a response say. -/
structure ResponseValid (response : PreflightResponse φ) : Prop where
  schema : schemaInvalid response = false
  readiness : isNone response.readinessState = true ∨ isOneOf readinessStates response.readinessState = true
  quarantine : isBool response.quarantine = true
  handoff : isBool response.readyHandoffProved = true
  authorized : response.state.isStr (py "authorized") = authorizedShape response
  denied : response.state.isStr (py "authorized") = false → response.operationPermitted.isTrue = false ∧
    response.activationPermitted.isTrue = false ∧ response.readyHandoffProved.isTrue = false
  activation : response.activationRequired.isTrue =
    response.state.isStr (py "activation-authorization-required")
  quarantined : response.quarantine.isTrue = isOneOf quarantineStates response.state
  readOnly : response.state.isStr (py "activation-authorized") = false

/-- A readiness that is none of the states, and has no hash. -/
structure ResponseStrays (response : PreflightResponse φ) : Prop where
  schema : schemaInvalid response = false
  some : isNone response.readinessState = false
  unhashable : isHashable response.readinessState = false

theorem validateResponse_ok {response : PreflightResponse φ} :
    validateResponse response = .ok () ↔ ResponseValid response := by
  unfold validateResponse
  rw [raiseIf_ok, raiseIf_ok, raiseIf_ok, raiseIf_ok, raiseIf_ok, raiseIf_ok, raiseIf_ok, raiseIf_ok_last]
  constructor
  · rintro ⟨hschema, -, hfields, hauthorized, hdenied, hactivation, hquarantined, hreadOnly⟩
    obtain ⟨hreadiness, hfields⟩ := not_or.mp hfields
    obtain ⟨hquarantine, hhandoff⟩ := not_or.mp hfields
    exact {
      schema := eq_false_of_ne_true hschema
      readiness := by
        by_cases hnone : isNone response.readinessState = true
        · exact .inl hnone
        · exact .inr (not_not.mp fun hnot => hreadiness ⟨hnone, hnot⟩)
      quarantine := not_not.mp hquarantine
      handoff := not_not.mp hhandoff
      authorized := not_not.mp hauthorized
      denied := fun hstate => by
        have hnothing := fun h => hdenied ⟨Bool.eq_false_iff.mp hstate, h⟩
        obtain ⟨hoperation, hnothing⟩ := not_or.mp hnothing
        obtain ⟨hactivate, hready⟩ := not_or.mp hnothing
        exact ⟨eq_false_of_ne_true hoperation, eq_false_of_ne_true hactivate, eq_false_of_ne_true hready⟩
      activation := not_not.mp hactivation
      quarantined := not_not.mp hquarantined
      readOnly := eq_false_of_ne_true hreadOnly }
  · intro h
    refine ⟨Bool.eq_false_iff.mp h.schema, ?_, ?_, not_not.mpr h.authorized, ?_, not_not.mpr h.activation,
      not_not.mpr h.quarantined, Bool.eq_false_iff.mp h.readOnly⟩
    · rintro ⟨hnone, hunhashable⟩
      exact hunhashable (isHashable_of_isOneOf (h.readiness.resolve_left hnone))
    · rintro (⟨hnone, hunknown⟩ | hquarantine | hhandoff)
      · exact hunknown (h.readiness.resolve_left hnone)
      · exact hquarantine h.quarantine
      · exact hhandoff h.handoff
    · rintro ⟨hstate, hpermits⟩
      obtain ⟨hoperation, hactivate, hready⟩ := h.denied (eq_false_of_ne_true hstate)
      rcases hpermits with hpermits | hpermits | hpermits
      · exact absurd (hpermits.symm.trans hoperation) Bool.noConfusion
      · exact absurd (hpermits.symm.trans hactivate) Bool.noConfusion
      · exact absurd (hpermits.symm.trans hready) Bool.noConfusion

/-- **The validator of a response** raises its own error, but on a readiness that has no hash. -/
theorem own_validateResponse {response : PreflightResponse φ} :
    Own (validateResponse response) ↔ ¬ ResponseStrays response := by
  rw [validateResponse, own_refuse, own_stray]
  constructor
  · rintro h ⟨hschema, hsome, hunhashable⟩
    exact (h (Bool.eq_false_iff.mp hschema)).1 ⟨Bool.eq_false_iff.mp hsome, Bool.eq_false_iff.mp hunhashable⟩
  · intro h hschema
    refine ⟨fun hboth => h ⟨eq_false_of_ne_true hschema, eq_false_of_ne_true hboth.1,
      eq_false_of_ne_true hboth.2⟩, ?_⟩
    refine own_refuse.mpr fun _ => own_refuse.mpr fun _ => own_refuse.mpr fun _ => ?_
    exact own_refuse.mpr fun _ => own_refuse.mpr fun _ => own_refuse_last

/-- What the schema of a response says. -/
theorem schemaInvalid_eq_false {response : PreflightResponse φ} : schemaInvalid response = false ↔
    ∃ policy, policyNamed response.operation = some policy ∧ isOneOf policyStates response.state = true ∧
      response.policyAction = .str policy.action ∧ isBool response.operationPermitted = true ∧
      isBool response.activationRequired = true ∧ isBool response.activationPermitted = true := by
  simp only [schemaInvalid, Bool.or_eq_false_iff, Bool.not_eq_false', Option.isNone_eq_false_iff,
    Option.any_eq_false]
  constructor
  · rintro ⟨⟨⟨⟨⟨⟨-, hpolicy⟩, hstate⟩, haction⟩, hoperation⟩, hrequired⟩, hactivation⟩
    obtain ⟨policy, hpolicy⟩ := Option.isSome_iff_exists.mp hpolicy
    exact ⟨policy, hpolicy, hstate, isStr_iff.mp (by simpa using haction policy hpolicy), hoperation,
      hrequired, hactivation⟩
  · rintro ⟨policy, hpolicy, hstate, haction, hoperation, hrequired, hactivation⟩
    obtain ⟨name, -, hname⟩ := policyNamed_some hpolicy
    obtain ⟨text, -, htext⟩ := isOneOf_iff.mp hstate
    refine ⟨⟨⟨⟨⟨⟨⟨⟨?_, ?_⟩, ?_⟩, ?_⟩, hstate⟩, ?_⟩, hoperation⟩, hrequired⟩, hactivation⟩
    · rw [hname]
      rfl
    · rw [htext]
      rfl
    · rw [haction]
      rfl
    · exact Option.isSome_iff_exists.mpr ⟨policy, hpolicy⟩
    · intro expected hexpected
      obtain rfl := Option.some.inj (hpolicy.symm.trans hexpected)
      simp [isStr_iff.mpr haction]

/-! ### Writing and reading them -/

theorem isNative_readiness {value : Value φ}
    (h : isNone value = true ∨ isOneOf readinessStates value = true) : isNative value = true := by
  rcases h with hnone | hstate
  · rw [isNone_iff.mp hnone]
    rfl
  · exact isNative_of_isOneOf hstate (by decide)

theorem isNative_preflight {response : PreflightResponse φ} (h : ResponseValid response) :
    isNative response.public = true := by
  obtain ⟨policy, hpolicy, hstate, haction, hoperation, hrequired, hactivation⟩ :=
    schemaInvalid_eq_false.mp h.schema
  have hplain : ∀ named ∈ operationPolicies, noPairs named.2.action = true := by decide
  obtain ⟨name, hname, -⟩ := policyNamed_some hpolicy
  refine isNative_members preflightResponseKeys rfl (by decide) (by decide) ?_
  simp only [List.forall_mem_cons]
  refine ⟨isNative_of_isBool hactivation, isNative_of_isBool hrequired, (by decide : noPairs (py preflightCommand) = true), rfl,
    isNative_operation (by rw [hpolicy]; rfl), isNative_of_isBool hoperation, ?_,
    isNative_of_isBool h.quarantine, isNative_readiness h.readiness, isNative_of_isBool h.handoff, rfl,
    isNative_of_isOneOf hstate (by decide), rfl, nofun⟩
  rw [haction]
  exact hplain _ hname

theorem preflightOf_public (response : PreflightResponse φ) : preflightOf response.public = response := by
  have hget : ∀ name, response.public.get name = _ := fun name => get_members name _
  simp only [preflightOf, hget]
  rfl

theorem encodeResponse_preflight {response : PreflightResponse φ} {data : Bytes} :
    encodeResponse (.preflight response) = .ok data ↔
      ResponseValid response ∧ encodePacket responseKind response.public = .ok data := by
  rw [encodeResponse]
  constructor
  · intro h
    obtain ⟨⟨⟩, hvalid, hencode⟩ := bind_ok h
    exact ⟨validateResponse_ok.mp hvalid, hencode⟩
  · rintro ⟨hvalid, hencode⟩
    exact bind_eq_ok.mpr ⟨(), validateResponse_ok.mpr hvalid, hencode⟩

/-- A preflight response that was encoded is decoded to itself. -/
theorem decodeResponse_preflight {response : PreflightResponse φ} {data : Bytes}
    (h : encodeResponse (.preflight response) = .ok data) :
    decodeResponse φ data = .ok (.preflight response) := by
  obtain ⟨hvalid, hencode⟩ := encodeResponse_preflight.mp h
  have hget : ∀ name, response.public.get name = _ := fun name => get_members name _
  have hcommand : response.public.get "command" = .str (py preflightCommand) := hget _
  have hversion : response.public.get "schema_version" = .int 1 := hget _
  have hmutation : response.public.get "t2_mutation_performed" = .bool false := hget _
  have hredacted : response.public.get "identifiers_redacted" = .bool true := hget _
  have hother : ¬ (Value.str (py preflightCommand) : Value φ).isStr (py identitiesCommand) = true := by
    intro hsame
    exact absurd (Value.str.inj (isStr_iff.mp hsame)) (by decide)
  refine bind_eq_ok.mpr ⟨response.public,
    decodePacket_encodePacket hencode (isNative_preflight hvalid) rfl, ?_⟩
  rw [hcommand, if_neg hother]
  refine bind_eq_ok.mpr ⟨response, ?_, rfl⟩
  rw [decodePreflightResponse, hcommand, hversion, hmutation, hredacted, preflightOf_public]
  refine raiseIf_ok.mpr ⟨?_, bind_eq_ok.mpr ⟨(), validateResponse_ok.mpr hvalid, ?_⟩⟩
  · rintro (hkeys | hversion | hcommand | hmutation | hredacted)
    · exact hkeys (hasKeys_members rfl)
    · exact hversion rfl
    · exact hcommand (isStr_iff.mpr rfl)
    · exact hmutation rfl
    · exact hredacted rfl
  · exact bind_eq_ok.mpr ⟨data, h, raiseIf_ok.mpr ⟨not_not.mpr rfl, rfl⟩⟩

/-! ## The public inventory -/

/-- One record of an inventory in its public form. -/
structure IdentityValid (slot : Nat) (identity : PublicIdentity φ) : Prop where
  slot : identity.slot = .int slot
  name : ∃ text, identity.name = .str text ∧ text ≠ [] ∧
    (text.any fun c => isHighSurrogate c || isLowSurrogate c) = false ∧ hasNul text = false ∧
    utf8Length text ≤ maxPublicNameBytes
  live : identity.live = .bool true

theorem parsePublicIdentity_public {slot : Nat} {identity parsed : PublicIdentity φ}
    (h : parsePublicIdentity slot identity.public = .ok parsed) : parsed = identity ∧ IdentityValid slot identity := by
  have hget : ∀ name, identity.public.get name = _ := fun name => get_members name _
  have hslot : identity.public.get "slot" = identity.slot := hget _
  have hname : identity.public.get "name" = identity.name := hget _
  have hlive : identity.public.get "live" = identity.live := hget _
  rw [parsePublicIdentity, hslot, hname, hlive] at h
  obtain ⟨-, h⟩ := raiseIf_ok.mp h
  obtain ⟨hplain, h⟩ := raiseIf_ok.mp h
  obtain ⟨hfields, h⟩ := raiseIf_ok.mp h
  cases h
  obtain ⟨hint, hfields⟩ := not_or.mp hfields
  obtain ⟨hexpected, hfields⟩ := not_or.mp hfields
  obtain ⟨htext, hfields⟩ := not_or.mp hfields
  obtain ⟨hnul, hfields⟩ := not_or.mp hfields
  obtain ⟨hlength, htrue⟩ := not_or.mp hfields
  obtain ⟨slot, name, live⟩ := identity
  dsimp only at *
  obtain ⟨n, rfl⟩ := isInt_iff.mp (not_not.mp hint)
  obtain rfl : n = _ := not_not.mp hexpected
  obtain rfl := isTrue_iff.mp (not_not.mp htrue)
  cases name with
  | str text =>
    refine ⟨rfl, ⟨rfl, ⟨text, rfl, ?_, eq_false_of_ne_true hplain, eq_false_of_ne_true hnul,
      Nat.not_lt.mp hlength⟩, rfl⟩⟩
    rintro rfl
    exact htext nofun
  | _ => exact absurd nofun htext

theorem parsePublicIdentities_public {identities : List (PublicIdentity φ)} : ∀ {slot : Nat}
    {parsed : List (PublicIdentity φ)},
    parsePublicIdentities slot (identities.map PublicIdentity.public) = .ok parsed →
    parsed = identities ∧ ∀ identity ∈ identities, ∃ slot, IdentityValid slot identity := by
  induction identities with
  | nil =>
    rintro slot _ ⟨⟩
    exact ⟨rfl, nofun⟩
  | cons identity identities ih =>
    intro slot parsed h
    rw [List.map_cons, parsePublicIdentities] at h
    obtain ⟨first, hfirst, h⟩ := bind_ok h
    obtain ⟨rest, hrest, h⟩ := bind_ok h
    cases h
    obtain ⟨rfl, hvalid⟩ := parsePublicIdentity_public hfirst
    obtain ⟨rfl, hvalids⟩ := ih hrest
    exact ⟨rfl, List.forall_mem_cons.mpr ⟨⟨slot, hvalid⟩, hvalids⟩⟩

/-- What the parser of an inventory tests, of its public form. -/
structure InventoryValid (inventory : PublicIdentityInventory φ) : Prop where
  identities : ∀ identity ∈ inventory.identities, ∃ slot, IdentityValid slot identity
  reconciled : inventory.localLiveReconciled = .bool true
  scope : inventory.selectionScope = .str (py "current-reconciled-list")
  compatibility : inventory.fprintdListingIsCompatibilityAlias = .bool true
  redacted : inventory.identifiersRedacted = .bool true

/-- **The parser undoes the public form** wherever it accepts it. -/
theorem parsePublicInventory_public {inventory parsed : PublicIdentityInventory φ}
    (h : parsePublicInventory inventory.public = .ok parsed) : parsed = inventory ∧ InventoryValid inventory := by
  have hget : ∀ name, inventory.public.get name = _ := fun name => get_members name _
  have hrecords : itemsOf (inventory.public.get "identities") = inventory.identities.map PublicIdentity.public :=
    congrArg itemsOf (hget _)
  have hreconciled : inventory.public.get "local_live_reconciled" = inventory.localLiveReconciled := hget _
  have hscope : inventory.public.get "selection_scope" = inventory.selectionScope := hget _
  have halias : inventory.public.get "fprintd_listing_is_compatibility_alias" =
    inventory.fprintdListingIsCompatibilityAlias := hget _
  have hredacted : inventory.public.get "identifiers_redacted" = inventory.identifiersRedacted := hget _
  rw [parsePublicInventory] at h
  obtain ⟨-, h⟩ := raiseIf_ok.mp h
  obtain ⟨hfields, h⟩ := raiseIf_ok.mp h
  rw [hrecords] at h
  obtain ⟨identities, hidentities, h⟩ := bind_ok h
  obtain ⟨-, h⟩ := raiseIf_ok.mp h
  cases h
  rw [hreconciled, hscope, halias, hredacted] at hfields
  obtain ⟨-, hfields⟩ := not_or.mp hfields
  obtain ⟨-, hfields⟩ := not_or.mp hfields
  obtain ⟨-, hfields⟩ := not_or.mp hfields
  obtain ⟨-, hfields⟩ := not_or.mp hfields
  obtain ⟨hlive, hfields⟩ := not_or.mp hfields
  obtain ⟨hlist, hfields⟩ := not_or.mp hfields
  obtain ⟨hcompatibility, hhidden⟩ := not_or.mp hfields
  obtain ⟨rfl, hvalid⟩ := parsePublicIdentities_public hidentities
  have hvalid : InventoryValid inventory := {
    identities := hvalid
    reconciled := isTrue_iff.mp (not_not.mp hlive)
    scope := isStr_iff.mp (not_not.mp hlist)
    compatibility := isTrue_iff.mp (not_not.mp hcompatibility)
    redacted := isTrue_iff.mp (not_not.mp hhidden) }
  refine ⟨?_, hvalid⟩
  obtain ⟨identities, reconciled, scope, compatibility, redacted⟩ := inventory
  obtain ⟨-, rfl, rfl, rfl, rfl⟩ := hvalid
  rfl

theorem noPairs_of_plain {text : PyStr} (h : (text.any fun c => isHighSurrogate c || isLowSurrogate c) = false) :
    noPairs text = true := by
  refine noPairs_of_no_high fun c hc => ?_
  have hneither := List.any_eq_false.mp h c hc
  rw [Bool.or_eq_true, not_or] at hneither
  exact eq_false_of_ne_true hneither.1

theorem isNative_publicInventory {inventory : PublicIdentityInventory φ} (h : InventoryValid inventory) :
    isNative inventory.public = true := by
  refine isNative_members summaryKeys rfl (by decide) (by decide) ?_
  simp only [List.forall_mem_cons]
  refine ⟨?_, ?_, isNative_list ?_, rfl, ?_, rfl, ?_, nofun⟩
  · rw [h.compatibility]
    rfl
  · rw [h.redacted]
    rfl
  · intro item hitem
    obtain ⟨identity, hidentity, rfl⟩ := List.mem_map.mp hitem
    obtain ⟨slot, hvalid⟩ := h.identities identity hidentity
    obtain ⟨text, hname, -, hplain, -⟩ := hvalid.name
    refine isNative_members identityKeys rfl (by decide) (by decide) ?_
    simp only [List.forall_mem_cons]
    rw [hvalid.live, hname, hvalid.slot]
    exact ⟨rfl, noPairs_of_plain hplain, rfl, nofun⟩
  · rw [h.reconciled]
    rfl
  · rw [h.scope]
    exact (by decide : noPairs (py "current-reconciled-list") = true)

/-! ## Inventory responses -/

/-- What the tests of an inventory response say. -/
structure InventoryResponseValid (response : InventoryResponse φ) : Prop where
  preflight : ResponseValid response.preflight
  handoff : response.brokerConsumerInvoked.isTrue = response.inventory.isSome
  inventory : ∀ inventory, response.inventory = some inventory →
    parsePublicInventory inventory.public = .ok inventory ∧ InventoryValid inventory

theorem validateInventoryResponse_ok {response : InventoryResponse φ}
    (h : validateInventoryResponse response = .ok ()) : InventoryResponseValid response := by
  obtain ⟨⟨⟩, hpreflight, h⟩ := bind_ok h
  obtain ⟨hhandoff, h⟩ := raiseIf_ok.mp h
  refine ⟨validateResponse_ok.mp hpreflight, not_not.mp hhandoff, fun inventory hinventory => ?_⟩
  rw [hinventory] at h
  dsimp only at h
  split at h
  · exact nomatch h
  · rename_i parsed hparsed
    obtain ⟨rfl, hvalid⟩ := parsePublicInventory_public hparsed
    exact ⟨hparsed, hvalid⟩

theorem isNative_inventoryResponse {response : InventoryResponse φ} (h : InventoryResponseValid response) :
    isNative response.public = true := by
  obtain ⟨policy, -, hstate, haction, hoperation, hrequired, hactivation⟩ :=
    schemaInvalid_eq_false.mp h.preflight.schema
  have hpublic : isNative (publicInventory response.inventory) = true := by
    cases hinventory : response.inventory with
    | none => rfl
    | some inventory => exact isNative_publicInventory (h.inventory inventory hinventory).2
  have haction : isNative response.policyAction = true := by
    have hpreflight := isNative_preflight h.preflight
    exact (haveNative_iff.mp (Bool.and_eq_true_iff.mp hpreflight).2 (.str (py "policy_action"), _)
      (List.mem_map.mpr ⟨("policy_action", response.policyAction), by simp [InventoryResponse.preflight], rfl⟩)).2
  refine isNative_members inventoryResponseKeys rfl (by decide) (by decide) ?_
  simp only [List.forall_mem_cons]
  exact ⟨isNative_of_isBool hactivation, isNative_of_isBool hrequired, isNative_of_isBool h.preflight.handoff,
    (by decide : noPairs (py identitiesCommand) = true), rfl, rfl, hpublic,
    (by decide : noPairs (py "inventory") = true), isNative_of_isBool hoperation, haction,
    isNative_of_isBool h.preflight.quarantine, isNative_readiness h.preflight.readiness, rfl,
    isNative_of_isOneOf hstate (by decide), rfl, nofun⟩

theorem encodeResponse_inventory {response : InventoryResponse φ} {data : Bytes} :
    encodeResponse (.inventory response) = .ok data ↔
      validateInventoryResponse response = .ok () ∧ encodePacket responseKind response.public = .ok data := by
  rw [encodeResponse]
  constructor
  · intro h
    obtain ⟨⟨⟩, hvalid, hencode⟩ := bind_ok h
    exact ⟨hvalid, hencode⟩
  · rintro ⟨hvalid, hencode⟩
    exact bind_eq_ok.mpr ⟨(), hvalid, hencode⟩

/-- The inventory of a response is read from its public form. -/
theorem decodeInventory_public {response : InventoryResponse φ} (h : InventoryResponseValid response) :
    decodeInventory response.public = .ok response.inventory := by
  have hget : ∀ name, response.public.get name = _ := fun name => get_members name _
  have havailable : response.public.get "identity_inventory_available" = .bool response.inventory.isSome := hget _
  have hraw : response.public.get "inventory" = publicInventory response.inventory := hget _
  rw [decodeInventory, havailable, hraw]
  cases hinventory : response.inventory with
  | none => rfl
  | some inventory =>
    have hparse : parsePublicInventory (publicInventory (some inventory)) = .ok inventory :=
      (h.inventory inventory hinventory).1
    exact (if_pos rfl).trans (by rw [hparse])

/-- An inventory response that was encoded is decoded to itself. -/
theorem decodeResponse_inventory {response : InventoryResponse φ} {data : Bytes}
    (h : encodeResponse (.inventory response) = .ok data) :
    decodeResponse φ data = .ok (.inventory response) := by
  obtain ⟨hvalidate, hencode⟩ := encodeResponse_inventory.mp h
  have hvalid := validateInventoryResponse_ok hvalidate
  have hget : ∀ name, response.public.get name = _ := fun name => get_members name _
  have hcommand : response.public.get "command" = .str (py identitiesCommand) := hget _
  have hoperation : response.public.get "operation" = .str (py "inventory") := hget _
  have hversion : response.public.get "schema_version" = .int 1 := hget _
  have hmutation : response.public.get "t2_mutation_performed" = .bool false := hget _
  have hredacted : response.public.get "identifiers_redacted" = .bool true := hget _
  have hinvoked : response.public.get "broker_consumer_invoked" = response.brokerConsumerInvoked := hget _
  have havailable : response.public.get "identity_inventory_available" = .bool response.inventory.isSome := hget _
  refine bind_eq_ok.mpr ⟨response.public,
    decodePacket_encodePacket hencode (isNative_inventoryResponse hvalid) rfl, ?_⟩
  rw [hcommand, if_pos (isStr_iff.mpr rfl)]
  refine bind_eq_ok.mpr ⟨response, ?_, rfl⟩
  rw [decodeInventoryResponse, decodeInventory_public hvalid, hcommand, hoperation, hversion, hmutation, hredacted,
    hinvoked, havailable]
  refine raiseIf_ok.mpr ⟨?_, bind_eq_ok.mpr ⟨response.inventory, rfl, ?_⟩⟩
  · rintro (hkeys | hversion | hcommand | hoperation | hmutation | hredacted | hinvoked | havailable | hsame)
    · exact hkeys (hasKeys_members rfl)
    · exact hversion rfl
    · exact hcommand (isStr_iff.mpr rfl)
    · exact hoperation (isStr_iff.mpr rfl)
    · exact hmutation rfl
    · exact hredacted rfl
    · exact hinvoked hvalid.preflight.handoff
    · exact havailable rfl
    · exact hsame hvalid.handoff.symm
  · have hrebuilt : (⟨response.public.get "state", response.public.get "policy_action",
        response.public.get "operation_permitted", response.public.get "activation_required",
        response.public.get "activation_permitted", response.public.get "readiness_state",
        response.public.get "quarantine", response.brokerConsumerInvoked, response.inventory⟩ :
        InventoryResponse φ) = response := by
      simp only [hget]
      rfl
    dsimp only
    rw [hrebuilt]
    refine bind_eq_ok.mpr ⟨(), hvalidate, bind_eq_ok.mpr ⟨data, h, ?_⟩⟩
    exact raiseIf_ok.mpr ⟨not_not.mpr rfl, rfl⟩

/-- **A response that was encoded** is decoded to itself. -/
theorem decodeResponse_encodeResponse {response : Response φ} {data : Bytes}
    (h : encodeResponse response = .ok data) : decodeResponse φ data = .ok response := by
  cases response with
  | preflight response => exact decodeResponse_preflight h
  | inventory response => exact decodeResponse_inventory h

/-- **A packet that was decoded** is encoded again. -/
theorem encodeResponse_decodeResponse {response : Response φ} {data : Bytes}
    (h : decodeResponse φ data = .ok response) : encodeResponse response = .ok data := by
  obtain ⟨value, -, h⟩ := bind_ok h
  split at h
  · obtain ⟨inventory, hinventory, h⟩ := bind_ok h
    cases h
    obtain ⟨-, hinventory⟩ := raiseIf_ok.mp hinventory
    obtain ⟨found, -, hinventory⟩ := bind_ok hinventory
    obtain ⟨⟨⟩, -, hinventory⟩ := bind_ok hinventory
    obtain ⟨encoded, hencoded, hinventory⟩ := bind_ok hinventory
    obtain ⟨hsame, hinventory⟩ := raiseIf_ok.mp hinventory
    cases hinventory
    exact hencoded.trans (congrArg Except.ok (not_not.mp hsame))
  · obtain ⟨preflight, hpreflight, h⟩ := bind_ok h
    cases h
    obtain ⟨-, hpreflight⟩ := raiseIf_ok.mp hpreflight
    obtain ⟨⟨⟩, -, hpreflight⟩ := bind_ok hpreflight
    obtain ⟨encoded, hencoded, hpreflight⟩ := bind_ok hpreflight
    obtain ⟨hsame, hpreflight⟩ := raiseIf_ok.mp hpreflight
    cases hpreflight
    exact hencoded.trans (congrArg Except.ok (not_not.mp hsame))

/-! ## What the decoder of a response raises -/

theorem own_encodeResponse {response : Response φ}
    (h : ∀ preflight, response = .preflight preflight → validateResponse preflight = .ok ())
    (hinventory : ∀ inventory, response = .inventory inventory → validateInventoryResponse inventory = .ok ()) :
    Own (encodeResponse response) := by
  cases response with
  | preflight preflight =>
    rw [encodeResponse, h preflight rfl]
    exact own_encodePacket
  | inventory inventory =>
    rw [encodeResponse, hinventory inventory rfl]
    exact own_encodePacket

theorem own_validateInventoryResponse {response : InventoryResponse φ} :
    Own (validateInventoryResponse response) ↔ ¬ ResponseStrays response.preflight := by
  rw [validateInventoryResponse, own_bind, own_validateResponse]
  refine and_iff_left fun _ _ => own_refuse.mpr fun _ => ?_
  split
  · exact own_ok ()
  · split
    · exact own_protocol _
    · exact own_refuse_last

theorem own_decodeInventory (value : Value φ) : Own (decodeInventory value) := by
  unfold decodeInventory
  split
  · split
    · exact own_protocol _
    · exact own_ok _
  · split
    · exact own_protocol _
    · exact own_ok _

/-- The tests of an inventory response before its fields. -/
structure InventorySchema (value : Value φ) : Prop where
  keys : hasKeys inventoryResponseKeys value = true
  version : isVersionOne (value.get "schema_version") = true
  command : (value.get "command").isStr (py identitiesCommand) = true
  operation : (value.get "operation").isStr (py "inventory") = true
  mutation : Journal.isFalse (value.get "t2_mutation_performed") = true
  redacted : (value.get "identifiers_redacted").isTrue = true
  invoked : isBool (value.get "broker_consumer_invoked") = true
  available : isBool (value.get "identity_inventory_available") = true
  same : (value.get "identity_inventory_available").isTrue = (value.get "broker_consumer_invoked").isTrue

/-- The tests of a preflight response before its fields. -/
structure PreflightSchema (value : Value φ) : Prop where
  keys : hasKeys preflightResponseKeys value = true
  version : isVersionOne (value.get "schema_version") = true
  command : (value.get "command").isStr (py preflightCommand) = true
  mutation : Journal.isFalse (value.get "t2_mutation_performed") = true
  redacted : (value.get "identifiers_redacted").isTrue = true

/-- The preflight response that the fields of an inventory response are tested as. -/
def inventoryPreflightOf (value : Value φ) : PreflightResponse φ :=
  { preflightOf value with
    operation := .str (py "inventory"), readyHandoffProved := value.get "broker_consumer_invoked" }

variable (φ) in
/-- The packet is a response whose readiness has no hash, and every test in front of it holds. -/
def DecodedResponseStrays (data : Bytes) : Prop :=
  ∃ value : Value φ, decodePacket φ responseKind data = .ok value ∧
    ((InventorySchema value ∧ (∃ inventory, decodeInventory value = .ok inventory) ∧
        ResponseStrays (inventoryPreflightOf value)) ∨
      (PreflightSchema value ∧ ResponseStrays (preflightOf value)))

theorem inventorySchema_iff {value : Value φ} : InventorySchema value ↔
    ¬ (¬ hasKeys inventoryResponseKeys value ∨ ¬ isVersionOne (value.get "schema_version")
      ∨ ¬ (value.get "command").isStr (py identitiesCommand)
      ∨ ¬ (value.get "operation").isStr (py "inventory")
      ∨ ¬ Journal.isFalse (value.get "t2_mutation_performed") ∨ ¬ (value.get "identifiers_redacted").isTrue
      ∨ ¬ isBool (value.get "broker_consumer_invoked") ∨ ¬ isBool (value.get "identity_inventory_available")
      ∨ (value.get "identity_inventory_available").isTrue ≠ (value.get "broker_consumer_invoked").isTrue) := by
  simp only [not_or, not_not]
  constructor
  · rintro ⟨hkeys, hversion, hcommand, hoperation, hmutation, hredacted, hinvoked, havailable, hsame⟩
    exact ⟨hkeys, hversion, hcommand, hoperation, hmutation, hredacted, hinvoked, havailable, hsame⟩
  · rintro ⟨hkeys, hversion, hcommand, hoperation, hmutation, hredacted, hinvoked, havailable, hsame⟩
    exact ⟨hkeys, hversion, hcommand, hoperation, hmutation, hredacted, hinvoked, havailable, hsame⟩

theorem preflightSchema_iff {value : Value φ} : PreflightSchema value ↔
    ¬ (¬ hasKeys preflightResponseKeys value ∨ ¬ isVersionOne (value.get "schema_version")
      ∨ ¬ (value.get "command").isStr (py preflightCommand)
      ∨ ¬ Journal.isFalse (value.get "t2_mutation_performed") ∨ ¬ (value.get "identifiers_redacted").isTrue) := by
  simp only [not_or, not_not]
  constructor
  · rintro ⟨hkeys, hversion, hcommand, hmutation, hredacted⟩
    exact ⟨hkeys, hversion, hcommand, hmutation, hredacted⟩
  · rintro ⟨hkeys, hversion, hcommand, hmutation, hredacted⟩
    exact ⟨hkeys, hversion, hcommand, hmutation, hredacted⟩

theorem own_decodeInventoryResponse {value : Value φ} {data : Bytes} :
    Own (decodeInventoryResponse value data) ↔ ¬ (InventorySchema value ∧
      (∃ inventory, decodeInventory value = .ok inventory) ∧ ResponseStrays (inventoryPreflightOf value)) := by
  rw [decodeInventoryResponse, own_refuse, ← inventorySchema_iff, not_and]
  refine forall_congr' fun _ => ?_
  rw [own_bind, and_iff_right (own_decodeInventory value), not_and, forall_exists_index]
  refine forall_congr' fun inventory => forall_congr' fun _ => ?_
  rw [own_bind, own_validateInventoryResponse]
  refine and_iff_left fun _ hvalid => own_bind.mpr ⟨?_, fun encoded _ => own_refuse.mpr fun _ => own_ok _⟩
  refine own_encodeResponse nofun ?_
  rintro _ ⟨⟩
  exact hvalid

theorem own_decodePreflightResponse {value : Value φ} {data : Bytes} :
    Own (decodePreflightResponse value data) ↔ ¬ (PreflightSchema value ∧ ResponseStrays (preflightOf value)) := by
  rw [decodePreflightResponse, own_refuse, ← preflightSchema_iff, not_and]
  refine forall_congr' fun _ => ?_
  rw [own_bind, own_validateResponse]
  refine and_iff_left fun _ hvalid => own_bind.mpr ⟨?_, fun encoded _ => own_refuse.mpr fun _ => own_ok _⟩
  refine own_encodeResponse ?_ nofun
  rintro _ ⟨⟩
  exact hvalid

/-- **The decoder of a response** raises its own error, but on a readiness that has no hash. -/
theorem own_decodeResponse {data : Bytes} (hjson : LoadsJson φ data) :
    Own (decodeResponse φ data) ↔ ¬ DecodedResponseStrays φ data := by
  have hmap : ∀ {α : Type} (x : Except PacketError α) (f : α → Response φ),
      Own (x >>= fun a => .ok (f a)) ↔ Own x := by
    intro α x f
    rw [own_bind]
    exact and_iff_left fun a _ => own_ok (f a)
  rw [decodeResponse, own_bind, and_iff_right (own_decodePacket hjson)]
  unfold DecodedResponseStrays
  rw [not_exists]
  refine forall_congr' fun value => ?_
  rw [not_and]
  refine forall_congr' fun _ => ?_
  by_cases hcommand : (value.get "command").isStr (py identitiesCommand) = true
  · -- no value is a response of both kinds
    have hnot : ¬ PreflightSchema value := by
      intro h
      have hsame := (isStr_iff.mp hcommand).symm.trans (isStr_iff.mp h.command)
      exact absurd (Value.str.inj hsame) (by decide)
    rw [if_pos hcommand, not_or, and_iff_left fun h => hnot h.1]
    exact (hmap _ _).trans own_decodeInventoryResponse
  · have hnot : ¬ InventorySchema value := fun h => hcommand h.command
    rw [if_neg hcommand, not_or, and_iff_right fun h => hnot h.1]
    exact (hmap _ _).trans own_decodePreflightResponse

end Messages

end T2TouchId.Packets.Broker
