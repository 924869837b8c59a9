/-
  Can the broker's protocol carry what the policy decides?

  Problem: `_validate_response` says again, flag by flag, what the states of a decision mean.  A state whose
  flags it does not know cannot be answered, and the client sees a broken protocol where the policy has
  denied.

  1. **Specification** — `Answerable`: the flags of a decision are those of its state.
  2. **The policy** — `authorize_answerable`: without an activation grant, every decision is answerable.
  3. **The crux (`responseValid_of_answerable`)** — what is answerable passes the validator.
  4. **Result** — `authorize_carried`: the response is made, encoded and decoded, and permits exactly what
     the decision permits.
-/
import T2TouchId.Journal.Written
import T2TouchId.Packets.BrokerMessages
import T2TouchId.User.Authority

set_option linter.unusedSectionVars false

namespace T2TouchId.Packets.Broker

open T2TouchId.Python T2TouchId.Python.Json T2TouchId.Journal T2TouchId.User T2TouchId.User.Broker

section Answers

variable {φ : Type} [JsonFloat φ]

/-! ## Specification -/

/-- The flags of a decision are those of its state, and it carries no authority to activate. -/
structure Answerable (decision : UserPolicyDecision φ) : Prop where
  action : ∃ policy, policyNamed decision.operation = some policy ∧ decision.policyAction = policy.action
  permitted : decision.operationPermitted = decide (decision.state = .authorized)
  ready : decision.state = .authorized → decision.readinessState = some .ready
  required : decision.activationRequired = decide (decision.state = .activationAuthorizationRequired)
  activation : decision.activationPermitted = false
  readOnly : decision.state ≠ .activationAuthorized
  quarantined : decision.quarantine =
    decide (decision.state = .callerAccountGenerationMismatch ∨ decision.state = .targetQuarantined)

/-! ## The policy -/

section Policy

variable {set : UserMappingSet} {request : OperationRequest φ} {caller : CallerEvidence φ}
  {policy : OperationPolicy} {selected : UserMapping} {persistent : PersistentEvidence φ}
  {aliased : AliasEvidence φ} {operationGrant : Option (PolicyGrant φ)} {decision : UserPolicyDecision φ}

/-- A decision with no flag, in a state that has none. -/
theorem answerable_decisionOf (hpolicy : policyNamed request.operation = some policy) {state : PolicyState}
    {readiness : Option ReadinessState} {mapping : Option UserMapping}
    (hstate : state ∉ [.authorized, .activationAuthorizationRequired, .activationAuthorized,
      .callerAccountGenerationMismatch, .targetQuarantined]) :
    Answerable { decisionOf request policy state with selectedMapping := mapping, readinessState := readiness } := by
  simp only [List.mem_cons, List.not_mem_nil, or_false, not_or] at hstate
  obtain ⟨hauthorized, hrequired, hactivation, hcaller, htarget⟩ := hstate
  exact {
    action := ⟨policy, hpolicy, rfl⟩
    permitted := (decide_eq_false hauthorized).symm
    ready := fun h => absurd h hauthorized
    required := (decide_eq_false hrequired).symm
    activation := rfl
    readOnly := hactivation
    quarantined := (decide_eq_false (not_or.mpr ⟨hcaller, htarget⟩)).symm }

theorem authorizeReadiness_answerable (hpolicy : policyNamed request.operation = some policy)
    {readiness : ReadinessDecision} {grant : PolicyGrant φ}
    (h : authorizeReadiness set request caller policy selected readiness grant none = .ok decision) :
    Answerable decision := by
  unfold authorizeReadiness at h
  split at h
  · cases h
    exact ⟨⟨policy, hpolicy, rfl⟩, rfl, nofun, rfl, rfl, nofun, rfl⟩
  · split at h
    · rename_i hready
      cases h
      exact ⟨⟨policy, hpolicy, rfl⟩, rfl, fun _ => congrArg some hready, rfl, rfl, nofun, rfl⟩
    · split at h
      · cases h
        exact ⟨⟨policy, hpolicy, rfl⟩, rfl, nofun, rfl, rfl, nofun, rfl⟩
      · cases h
        exact answerable_decisionOf hpolicy (by decide)

theorem authorizeGranted_answerable (hpolicy : policyNamed request.operation = some policy)
    {grant : PolicyGrant φ}
    (h : authorizeGranted set request caller policy selected persistent aliased grant none = .ok decision) :
    Answerable decision := by
  unfold authorizeGranted at h
  split at h
  · cases h
    exact answerable_decisionOf hpolicy (by decide)
  · split at h
    · cases h
      exact answerable_decisionOf hpolicy (by decide)
    · split at h
      · cases h
        exact answerable_decisionOf hpolicy (by decide)
      · split at h
        · exact nomatch h
        · exact authorizeReadiness_answerable hpolicy h

theorem authorizeSelected_answerable (hpolicy : policyNamed request.operation = some policy)
    (h : authorizeSelected set request caller policy selected persistent aliased operationGrant none =
      .ok decision) : Answerable decision := by
  unfold authorizeSelected at h
  split at h
  · cases h
    exact ⟨⟨policy, hpolicy, rfl⟩, rfl, nofun, rfl, rfl, nofun, rfl⟩
  · split at h
    · cases h
      exact answerable_decisionOf hpolicy (by decide)
    · obtain ⟨⟨⟩, -, h⟩ := bind_ok h
      exact authorizeGranted_answerable hpolicy h

/-- **Without an activation grant**, a decision has the flags of its state. -/
theorem authorize_answerable
    (h : authorize set request caller persistent aliased operationGrant none = .ok decision) :
    Answerable decision := by
  obtain ⟨policy, hrequest, h⟩ := bind_ok h
  obtain ⟨⟨⟩, -, h⟩ := bind_ok h
  have hpolicy := (validateRequest_ok hrequest).policy
  unfold authorizeCaller at h
  split at h
  · cases h
    exact answerable_decisionOf hpolicy (by decide)
  · split at h
    · cases h
      exact answerable_decisionOf hpolicy (by decide)
    · split at h
      · cases h
        exact answerable_decisionOf hpolicy (by decide)
      · exact authorizeSelected_answerable hpolicy h

/-- An activation grant is not what authorizes an operation. -/
theorem decideActivation_not_authorized {readiness : ReadinessState} {operationGrant activationGrant : PolicyGrant φ} :
    (decideActivation set request caller policy selected readiness operationGrant activationGrant).state ≠
      .authorized := by
  unfold decideActivation
  split
  · exact nofun
  · split
    · exact nofun
    · exact nofun

variable {activationGrant : Option (PolicyGrant φ)}

theorem authorizeReadiness_authorized {readiness : ReadinessDecision} {grant : PolicyGrant φ}
    (h : authorizeReadiness set request caller policy selected readiness grant activationGrant = .ok decision)
    (hstate : decision.state = .authorized) :
    authorizeReadiness set request caller policy selected readiness grant none = .ok decision := by
  unfold authorizeReadiness at h ⊢
  by_cases hquarantine : readiness.quarantine = true
  · rwa [if_pos hquarantine] at h ⊢
  · rw [if_neg hquarantine] at h ⊢
    by_cases hready : readiness.state = .ready
    · rwa [if_pos hready] at h ⊢
    · rw [if_neg hready] at h ⊢
      by_cases hactivatable : readiness.state ∈ activatableStates
      · -- what comes of an activation grant is another state
        rw [if_pos hactivatable] at h ⊢
        cases activationGrant with
        | none => exact h
        | some activationGrant =>
          obtain ⟨⟨⟩, -, h⟩ := bind_ok h
          cases h
          exact absurd hstate decideActivation_not_authorized
      · rwa [if_neg hactivatable] at h ⊢

theorem authorizeGranted_authorized {grant : PolicyGrant φ}
    (h : authorizeGranted set request caller policy selected persistent aliased grant activationGrant = .ok decision)
    (hstate : decision.state = .authorized) :
    authorizeGranted set request caller policy selected persistent aliased grant none = .ok decision := by
  unfold authorizeGranted at h ⊢
  by_cases hbound : ¬ grantBound grant policy.action caller request set.generation
  · rwa [if_pos hbound] at h ⊢
  · rw [if_neg hbound] at h ⊢
    by_cases hgranted : ¬ grant.authorized.isTrue
    · rwa [if_pos hgranted] at h ⊢
    · rw [if_neg hgranted] at h ⊢
      by_cases hdisabled : policy.mutation ∧ ¬ request.modificationAllowed.isTrue
      · rwa [if_pos hdisabled] at h ⊢
      · rw [if_neg hdisabled] at h ⊢
        cases hassess : assess selected policy.capability persistent aliased with
        | error error =>
          rw [hassess] at h
          exact nomatch h
        | ok readiness =>
          rw [hassess] at h
          exact authorizeReadiness_authorized h hstate

/-- **What is authorized** is so without an activation grant. -/
theorem authorize_authorized
    (h : authorize set request caller persistent aliased operationGrant activationGrant = .ok decision)
    (hstate : decision.state = .authorized) :
    authorize set request caller persistent aliased operationGrant none = .ok decision := by
  obtain ⟨policy, hrequest, h⟩ := bind_ok h
  obtain ⟨⟨⟩, hcaller, h⟩ := bind_ok h
  refine bind_eq_ok.mpr ⟨policy, hrequest, bind_eq_ok.mpr ⟨(), hcaller, ?_⟩⟩
  unfold authorizeCaller at h ⊢
  by_cases hdelegated : differ caller.linuxUid request.targetLinuxUid
  · rwa [if_pos hdelegated] at h ⊢
  · rw [if_neg hdelegated] at h ⊢
    by_cases hsession : ¬ caller.authenticated.isTrue ∨ ¬ caller.activeLocalSession.isTrue
    · rwa [if_pos hsession] at h ⊢
    · rw [if_neg hsession] at h ⊢
      cases hresolve : set.resolve (intOf request.targetLinuxUid) policy.capability with
      | error error =>
        rw [hresolve] at h
        exact h
      | ok selected =>
        rw [hresolve] at h
        dsimp only at h ⊢
        unfold authorizeSelected at h ⊢
        by_cases hgeneration : differ caller.linuxAccountGeneration (.str selected.linuxAccountGeneration)
        · rwa [if_pos hgeneration] at h ⊢
        · rw [if_neg hgeneration] at h ⊢
          cases operationGrant with
          | none => exact h
          | some grant =>
            obtain ⟨⟨⟩, hgrant, h⟩ := bind_ok h
            exact bind_eq_ok.mpr ⟨(), hgrant, authorizeGranted_authorized h hstate⟩

end Policy

/-! ## The response -/

theorem allFinite_members {items : List (String × Value φ)} (h : ∀ item ∈ items, allFinite item.2 = true) :
    allFinite (members items) = true := by
  show membersFinite _ = true
  induction items with
  | nil => rfl
  | cons item items ih =>
    obtain ⟨hitem, hitems⟩ := List.forall_mem_cons.mp h
    exact Bool.and_eq_true_iff.mpr ⟨hitem, ih hitems⟩

/-- The value is written in so many characters, at most. -/
def Within (bound : Nat) (value : Value φ) : Prop :=
  (∃ text, dumps value = some text ∧ text.length ≤ bound) ∧ allFinite value = true

/-- An object is as long as its members. -/
theorem within_members {items : List (String × Value φ)} {total : Nat} (bound : String → Nat) (hne : items ≠ [])
    (h : ∀ item ∈ items, Within (bound item.1) item.2)
    (htotal : ((items.map Prod.fst).map fun name => (dumpsStr (py name)).length + bound name + 2).sum + 1 ≤ total) :
    Within total (members items) := by
  have hwritten : ∀ item ∈ items, (dumps item.2).isSome = true := by
    intro item hitem
    obtain ⟨⟨text, htext, -⟩, -⟩ := h item hitem
    rw [htext]
    rfl
  obtain ⟨text, htext, hlength⟩ := dumps_members_length hne hwritten
  have hsum : (items.map memberLength).sum ≤
      ((items.map Prod.fst).map fun name => (dumpsStr (py name)).length + bound name + 2).sum := by
    rw [List.map_map]
    refine List.sum_le_sum fun item hitem => ?_
    obtain ⟨⟨text, htext, hlength⟩, -⟩ := h item hitem
    show memberLength item ≤ (dumpsStr (py item.1)).length + bound item.1 + 2
    rw [memberLength, htext, Option.getD_some]
    omega
  exact ⟨⟨text, htext, by omega⟩, allFinite_members fun item hitem => (h item hitem).2⟩

/-- An object that is short enough fits into a packet. -/
theorem encodePacket_within {kind : PacketKind} {items : List (String × Value φ)}
    (h : Within kind.maximum (members items)) : ∃ data, encodePacket kind (members items) = .ok data := by
  obtain ⟨⟨text, htext, hlength⟩, hfinite⟩ := h
  obtain ⟨rest, -, rfl⟩ := dumps_dict htext
  exact ⟨_, encodePacket_ok.mpr ⟨_, hfinite, htext, rfl, Nat.succ_pos _, hlength⟩⟩

/-! ### Texts of states -/

theorem isStr_authorized (state : PolicyState) :
    (Value.str (py state.text) : Value φ).isStr (py "authorized") = decide (state = .authorized) := by
  cases state <;> rfl

theorem isStr_activationRequired (state : PolicyState) :
    (Value.str (py state.text) : Value φ).isStr (py "activation-authorization-required") =
      decide (state = .activationAuthorizationRequired) := by
  cases state <;> rfl

theorem isStr_activationAuthorized (state : PolicyState) :
    (Value.str (py state.text) : Value φ).isStr (py "activation-authorized") =
      decide (state = .activationAuthorized) := by
  cases state <;> rfl

theorem isOneOf_quarantine (state : PolicyState) :
    isOneOf quarantineStates (Value.str (py state.text) : Value φ) =
      decide (state = .callerAccountGenerationMismatch ∨ state = .targetQuarantined) := by
  cases state <;> rfl

theorem isOneOf_policyStates (state : PolicyState) :
    isOneOf policyStates (Value.str (py state.text) : Value φ) = true := by
  cases state <;> rfl

theorem isOneOf_readinessStates (state : ReadinessState) :
    isOneOf readinessStates (Value.str (py state.text) : Value φ) = true := by
  cases state <;> rfl

/-- The response of an answerable decision. -/
def responseOf (decision : UserPolicyDecision φ) : PreflightResponse φ where
  operation := decision.operation
  state := .str (py decision.state.text)
  policyAction := .str decision.policyAction
  operationPermitted := .bool decision.operationPermitted
  activationRequired := .bool decision.activationRequired
  activationPermitted := .bool decision.activationPermitted
  readinessState := readinessValue decision.readinessState
  quarantine := .bool decision.quarantine
  readyHandoffProved := .bool (decide (decision.state = .authorized))

/-- **What is answerable** passes the validator. -/
theorem responseValid_of_answerable {decision : UserPolicyDecision φ} (h : Answerable decision) :
    ResponseValid (responseOf decision) := by
  obtain ⟨policy, hpolicy, haction⟩ := h.action
  have hbool : ∀ b, (Value.bool b : Value φ).isTrue = b := fun _ => rfl
  exact {
    schema := schemaInvalid_eq_false.mpr ⟨policy, hpolicy, isOneOf_policyStates decision.state,
      congrArg Value.str haction, rfl, rfl, rfl⟩
    readiness := by
      show isNone (readinessValue decision.readinessState) = true ∨
        isOneOf readinessStates (readinessValue decision.readinessState) = true
      cases decision.readinessState with
      | none => exact .inl rfl
      | some state => exact .inr (isOneOf_readinessStates state)
    quarantine := rfl
    handoff := rfl
    authorized := by
      unfold authorizedShape
      rw [show (responseOf decision).state = .str (py decision.state.text) from rfl, isStr_authorized]
      by_cases hstate : decision.state = .authorized
      · -- every other field of the shape follows from the state
        have hpermitted : decision.operationPermitted = true := h.permitted.trans (decide_eq_true hstate)
        have hrequired : decision.activationRequired = false := by
          rw [h.required, hstate]
          rfl
        have hquarantine : decision.quarantine = false := by
          rw [h.quarantined, hstate]
          rfl
        simp [responseOf, hstate, hpermitted, hrequired, h.activation, hquarantine, h.ready hstate, readinessValue,
          Value.isTrue, Journal.isFalse, Value.isStr, ReadinessState.text]
      · rw [decide_eq_false hstate]
        rfl
    denied := by
      intro hstate
      have hstate : decide (decision.state = .authorized) = false := (isStr_authorized _).symm.trans hstate
      exact ⟨h.permitted.trans hstate, h.activation, hstate⟩
    activation := h.required.trans (isStr_activationRequired _).symm
    quarantined := h.quarantined.trans (isOneOf_quarantine _).symm
    readOnly := (isStr_activationAuthorized _).trans (decide_eq_false h.readOnly) }

/-- The value is written in few characters. -/
def Short (value : Value φ) : Prop :=
  (∃ text, dumps value = some text ∧ text.length ≤ 100) ∧ allFinite value = true

theorem short_str {text : PyStr} (h : (dumpsStr text).length ≤ 100) : Short (.str text : Value φ) :=
  ⟨⟨_, rfl, h⟩, rfl⟩

theorem short_bool (b : Bool) : Short (.bool b : Value φ) := by
  refine ⟨⟨_, rfl, ?_⟩, rfl⟩
  cases b <;> decide

/-- The response fits. -/
theorem encodeResponse_answerable {decision : UserPolicyDecision φ} (h : Answerable decision) :
    ∃ data, encodeResponse (.preflight (responseOf decision)) = .ok data := by
  obtain ⟨policy, hpolicy, haction⟩ := h.action
  obtain ⟨name, hname, hoperation⟩ := policyNamed_some hpolicy
  have hnamed : ∀ named ∈ operationPolicies,
      (dumpsStr (py named.1)).length ≤ 100 ∧ (dumpsStr named.2.action).length ≤ 100 := by decide
  have hreadiness : Short (readinessValue decision.readinessState : Value φ) := by
    cases decision.readinessState with
    | none => exact ⟨⟨_, rfl, by decide⟩, rfl⟩
    | some state => exact short_str (by cases state <;> decide)
  have hstate : Short (.str (py decision.state.text) : Value φ) :=
    short_str (by cases decision.state <;> decide)
  have hoperation : Short decision.operation := by
    rw [hoperation]
    exact short_str (hnamed _ hname).1
  have haction : Short (.str decision.policyAction : Value φ) := by
    rw [haction]
    exact short_str (hnamed _ hname).2
  obtain ⟨items, hitems, hkeys, hshort⟩ : ∃ items : List (String × Value φ),
      (responseOf decision).public = members items ∧ items.map Prod.fst = preflightResponseKeys ∧
        ∀ item ∈ items, Short item.2 := by
    refine ⟨_, rfl, rfl, ?_⟩
    simp only [List.forall_mem_cons]
    exact ⟨short_bool _, short_bool _, short_str (by decide), short_bool _, hoperation, short_bool _, haction,
      short_bool _, hreadiness, short_bool _, ⟨⟨py "1", by rfl, by decide⟩, rfl⟩, hstate, short_bool _, nofun⟩
  have hwithin : Within responseKind.maximum (members items) := by
    refine within_members (fun _ => 100) (by rintro rfl; exact nomatch hkeys) hshort ?_
    rw [hkeys]
    decide
  obtain ⟨data, hdata⟩ := encodePacket_within hwithin
  exact ⟨data, encodeResponse_preflight.mpr ⟨responseValid_of_answerable h, hitems ▸ hdata⟩⟩

/-! ## Result -/

/-- **The protocol carries every decision**: the response of a decision without an activation grant is made,
    encoded and decoded, and permits exactly what the decision permits. -/
theorem authorize_carried {set : UserMappingSet} {request : OperationRequest φ} {caller : CallerEvidence φ}
    {persistent : PersistentEvidence φ} {aliased : AliasEvidence φ} {operationGrant : Option (PolicyGrant φ)}
    {decision : UserPolicyDecision φ} {result : BrokerResult φ}
    (hdecision : authorize set request caller persistent aliased operationGrant none = .ok decision)
    (hresult : result.decision = decision)
    (hinvoked : result.consumerInvoked = true ↔ decision.state = .authorized) :
    ∃ response data,
      responseFromResult ⟨.str (py preflightCommand), decision.operation⟩ result = .ok response ∧
      encodeResponse (.preflight response) = .ok data ∧
      decodeResponse φ data = .ok (.preflight response) ∧
      (response.operationPermitted = .bool true ↔ decision.operationPermitted = true) := by
  have hanswerable := authorize_answerable hdecision
  obtain ⟨data, hdata⟩ := encodeResponse_answerable hanswerable
  refine ⟨responseOf decision, data, ?_, hdata, decodeResponse_encodeResponse hdata, ?_⟩
  · obtain ⟨policy, hpolicy, -⟩ := hanswerable.action
    obtain ⟨name, -, hname⟩ := policyNamed_some hpolicy
    have hsame : differ result.decision.operation decision.operation = false := by
      rw [hresult, hname]
      exact differ_self_str _
    have hconsumer : result.consumerInvoked = decide (decision.state = .authorized) := by
      rw [Bool.eq_iff_iff, hinvoked, decide_eq_true_iff]
    rw [responseFromResult]
    refine raiseIf_ok.mpr ⟨not_not.mpr (isStr_iff.mpr rfl), raiseIf_ok.mpr ⟨Bool.eq_false_iff.mp hsame, ?_⟩⟩
    rw [hresult, hconsumer]
    exact bind_eq_ok.mpr ⟨(), validateResponse_ok.mpr (responseValid_of_answerable hanswerable), rfl⟩
  · exact ⟨fun h => Value.bool.inj h, fun h => congrArg Value.bool h⟩

end Answers

/-- The answer to a verification that is authorized. -/
theorem authorize_carried_sample : ∃ (decision : UserPolicyDecision Unit) (response : PreflightResponse Unit)
    (data : Bytes), decision.state = .authorized ∧ encodeResponse (.preflight response) = .ok data ∧
      decodeResponse Unit data = .ok (.preflight response) ∧ response.operationPermitted = .bool true := by
  have hsample : (sampleDecision sampleMappingSet).map (fun decision =>
      (decision.state, decision.operationPermitted)) = some (.authorized, true) := by decide +kernel
  obtain ⟨decision, hdecision, hstate⟩ := Option.map_eq_some_iff.mp hsample
  obtain ⟨hstate, hpermitted⟩ := Prod.mk.inj hstate
  obtain ⟨response, data, -, hencode, hdecode, hsame⟩ := authorize_carried (ok_of_toOption hdecision)
    (show (⟨decision, true, .none⟩ : BrokerResult Unit).decision = decision from rfl) (iff_of_true rfl hstate)
  exact ⟨decision, response, data, hstate, hencode, hdecode, hsame.mpr hpermitted⟩

end T2TouchId.Packets.Broker
