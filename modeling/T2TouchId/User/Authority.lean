/-
  Does the policy permit exactly what was granted?

  1. **Specification** — `Covers`: a live grant for exactly this action; `MayOperate`: everything but the
     readiness of the target.
  2. **The tests** — `RequestValid`, `CallerValid`, `GrantValid`: what has passed them; `covers_iff`: on such
     values the comparisons of the source are equalities.
  3. **The crux** — `authorize_decided`: a decision is one of three kinds, and each says which of the
     conditions hold.
  4. **Results** — `requireBoundAuthority_iff`: when a decision may be used.  `authorize_exact`: when there
     is one that permits.
-/
import T2TouchId.User.Documents
import T2TouchId.User.Policy

set_option linter.unusedSectionVars false

namespace T2TouchId.User

open T2TouchId.Python T2TouchId.Python.Json T2TouchId.Journal

section Authority

variable {φ : Type} [JsonFloat φ]

/-! ## Specification -/

section Specification

variable (set : UserMappingSet) (request : OperationRequest φ) (caller : CallerEvidence φ)
  (policy : OperationPolicy)

/-- The grant is live when the request was observed, and lives for five minutes at most. -/
structure Live (grant : PolicyGrant φ) : Prop where
  issued : ∃ issued, grant.issuedMonotonicNs = .int issued ∧ 0 ≤ issued
  lifetime : intOf grant.issuedMonotonicNs < intOf grant.expiresMonotonicNs ∧
    intOf grant.expiresMonotonicNs ≤ intOf grant.issuedMonotonicNs + maxPolicyLifetimeNs
  expires : ∃ expires, grant.expiresMonotonicNs = .int expires ∧ expires < 2 ^ 63
  observed : ∃ observed, request.observedMonotonicNs = .int observed ∧
    intOf grant.issuedMonotonicNs ≤ observed ∧ observed ≤ intOf grant.expiresMonotonicNs

/-- The grant authorizes exactly this action of this request, and is live. -/
structure Covers (action : PyStr) (grant : PolicyGrant φ) : Prop where
  authorized : grant.authorized = .bool true
  action : grant.action = .str action
  callerUid : grant.callerLinuxUid = caller.linuxUid
  account : grant.linuxAccountGeneration = caller.linuxAccountGeneration
  target : grant.targetLinuxUid = request.targetLinuxUid
  mapping : grant.mappingGeneration = .str set.generation
  operation : grant.operationId = request.operationId
  boot : grant.linuxBootUuid = request.linuxBootUuid
  runtime : grant.runtimeGeneration = request.runtimeGeneration
  live : Live request grant

/-- Everything but the readiness of the target. -/
structure MayOperate (operationGrant : Option (PolicyGrant φ)) (selected : UserMapping) : Prop where
  self : caller.linuxUid = request.targetLinuxUid
  authenticated : caller.authenticated = .bool true
  session : caller.activeLocalSession = .bool true
  mapped : selected ∈ set.mappings
  target : request.targetLinuxUid = .int selected.linuxUid
  unique : ∀ other ∈ set.mappings, other.linuxUid = selected.linuxUid → other = selected
  enabled : selected.enabled = true
  capability : policy.capability ∈ selected.capabilities
  account : caller.linuxAccountGeneration = .str selected.linuxAccountGeneration
  granted : ∃ grant, operationGrant = some grant ∧ Covers set request caller policy.action grant
  modification : policy.mutation = true → request.modificationAllowed = .bool true

/-- The target is in one of the states. -/
def InState (persistent : PersistentEvidence φ) (aliased : AliasEvidence φ) (states : List ReadinessState)
    (selected : UserMapping) : Prop :=
  ∃ readiness, assess selected policy.capability persistent aliased = .ok readiness ∧
    readiness.state ∈ states

end Specification

/-! ## What has passed the tests -/

theorem policyOf_ok {α : Type} {found : Except UserMappingError α} {a : α} :
    policyOf found = .ok a ↔ found = .ok a := by
  constructor
  · intro h
    cases found with
    | ok b =>
      cases h
      rfl
    | error e => exact nomatch h
  · rintro rfl
    rfl

theorem monotonic_ok {value : Value φ} {label : String} {n : Int} :
    monotonic value label = .ok n ↔ value = .int n ∧ 0 ≤ n ∧ n < 2 ^ 63 := by
  cases value with
  | int m =>
    show (if 0 ≤ m ∧ m < 2 ^ 63 then _ else _) = _ ↔ _
    rw [okIf, Value.int.injEq]
    constructor
    · rintro ⟨rfl, hrange⟩
      exact ⟨rfl, hrange⟩
    · rintro ⟨rfl, hrange⟩
      exact ⟨rfl, hrange⟩
  | _ => exact ⟨nofun, nofun⟩

theorem policyUuid_ok {value : Value φ} {label : String} {text : PyStr} :
    policyUuid value label = .ok text ↔ value = .str text ∧ isCanonicalNonzeroUuid text = true :=
  policyOf_ok.trans canonicalUuid_ok

theorem policyUid_ok {value : Value φ} {label : String} {n : Int} :
    policyUid value label = .ok n ↔ value = .int n ∧ 1 ≤ n ∧ n < uint32Max :=
  policyOf_ok.trans unsigned_ok

theorem policyDigest_ok {value : Value φ} {label : String} {text : PyStr} :
    policyDigest value label = .ok text ↔ value = .str text ∧ isDigest text = true :=
  policyOf_ok.trans sha256Text_ok

/-- A user ID, a UUID, a digest, a time and a truth value. -/
def IsUid (value : Value φ) : Prop := ∃ n, value = .int n ∧ 1 ≤ n ∧ n < uint32Max
def IsCanonicalUuid (value : Value φ) : Prop := ∃ text, value = .str text ∧ isCanonicalNonzeroUuid text = true
def IsDigest (value : Value φ) : Prop := ∃ text, value = .str text ∧ isDigest text = true
def IsTime (value : Value φ) : Prop := ∃ n, value = .int n ∧ 0 ≤ n ∧ n < 2 ^ 63

theorem bool_of_isBool {value : Value φ} (h : ¬ ¬ isBool value = true) : ∃ b, value = .bool b := by
  cases value with
  | bool b => exact ⟨b, rfl⟩
  | _ => exact absurd (fun h => nomatch h) h

structure RequestValid (request : OperationRequest φ) (policy : OperationPolicy) : Prop where
  operation : isHashable request.operation = true
  policy : policyNamed request.operation = some policy
  target : IsUid request.targetLinuxUid
  operationId : IsCanonicalUuid request.operationId
  boot : IsCanonicalUuid request.linuxBootUuid
  runtime : IsCanonicalUuid request.runtimeGeneration
  observed : IsTime request.observedMonotonicNs
  modification : ∃ b, request.modificationAllowed = .bool b

structure CallerValid (caller : CallerEvidence φ) : Prop where
  uid : IsUid caller.linuxUid
  account : IsDigest caller.linuxAccountGeneration
  authenticated : ∃ b, caller.authenticated = .bool b
  session : ∃ b, caller.activeLocalSession = .bool b

structure GrantValid (grant : PolicyGrant φ) (request : OperationRequest φ) : Prop where
  authorization : IsCanonicalUuid grant.authorizationId
  caller : IsUid grant.callerLinuxUid
  target : IsUid grant.targetLinuxUid
  mapping : IsDigest grant.mappingGeneration
  live : Live request grant
  authorized : ∃ b, grant.authorized = .bool b

theorem validateRequest_ok {request : OperationRequest φ} {policy : OperationPolicy}
    (h : validateRequest request = .ok policy) : RequestValid request policy := by
  obtain ⟨hhashable, h⟩ := raiseIf_ok.mp h
  split at h
  · exact nomatch h
  · rename_i found hfound
    obtain ⟨n, htarget, h⟩ := bind_ok h
    obtain ⟨operationId, hoperation, h⟩ := bind_ok h
    obtain ⟨boot, hboot, h⟩ := bind_ok h
    obtain ⟨runtime, hruntime, h⟩ := bind_ok h
    obtain ⟨observed, hobserved, h⟩ := bind_ok h
    obtain ⟨hmodification, h⟩ := raiseIf_ok.mp h
    cases h
    exact {
      operation := not_not.mp hhashable
      policy := hfound
      target := ⟨n, policyUid_ok.mp htarget⟩
      operationId := ⟨operationId, policyUuid_ok.mp hoperation⟩
      boot := ⟨boot, policyUuid_ok.mp hboot⟩
      runtime := ⟨runtime, policyUuid_ok.mp hruntime⟩
      observed := ⟨observed, monotonic_ok.mp hobserved⟩
      modification := bool_of_isBool hmodification }

theorem validateCaller_ok {caller : CallerEvidence φ} (h : validateCaller caller = .ok ()) :
    CallerValid caller := by
  obtain ⟨n, huid, h⟩ := bind_ok h
  obtain ⟨text, haccount, h⟩ := bind_ok h
  obtain ⟨hbools, -⟩ := raiseIf_ok.mp ((bind_eq_ok (f := fun _ => Except.ok ())).mpr ⟨(), h, rfl⟩)
  obtain ⟨hauthenticated, hsession⟩ := not_or.mp hbools
  exact {
    uid := ⟨n, policyUid_ok.mp huid⟩
    account := ⟨text, policyDigest_ok.mp haccount⟩
    authenticated := bool_of_isBool hauthenticated
    session := bool_of_isBool hsession }

theorem validateGrant_ok {grant : PolicyGrant φ} {request : OperationRequest φ}
    (hobserved : IsTime request.observedMonotonicNs) (h : validateGrant grant request = .ok ()) :
    GrantValid grant request := by
  obtain ⟨authorization, hauthorization, h⟩ := bind_ok h
  obtain ⟨-, h⟩ := raiseIf_ok.mp h
  obtain ⟨callerUid, hcaller, h⟩ := bind_ok h
  obtain ⟨-, -, h⟩ := bind_ok h
  obtain ⟨targetUid, htarget, h⟩ := bind_ok h
  obtain ⟨mapping, hmapping, h⟩ := bind_ok h
  obtain ⟨-, -, h⟩ := bind_ok h
  obtain ⟨-, -, h⟩ := bind_ok h
  obtain ⟨-, -, h⟩ := bind_ok h
  obtain ⟨issued, hissued, h⟩ := bind_ok h
  obtain ⟨expires, hexpires, h⟩ := bind_ok h
  obtain ⟨hlive, h⟩ := raiseIf_ok.mp h
  obtain ⟨hauthorized, -⟩ := raiseIf_ok.mp ((bind_eq_ok (f := fun _ => Except.ok ())).mpr ⟨(), h, rfl⟩)
  obtain ⟨hissued, hnonnegative, -⟩ := monotonic_ok.mp hissued
  obtain ⟨hexpires, -, hbound⟩ := monotonic_ok.mp hexpires
  obtain ⟨observed, hobserved, -, -⟩ := hobserved
  rw [hobserved, show intOf (.int observed : Value φ) = observed from rfl] at hlive
  refine {
    authorization := ⟨authorization, policyUuid_ok.mp hauthorization⟩
    caller := ⟨callerUid, policyUid_ok.mp hcaller⟩
    target := ⟨targetUid, policyUid_ok.mp htarget⟩
    mapping := ⟨mapping, policyDigest_ok.mp hmapping⟩
    live := ⟨⟨issued, hissued, hnonnegative⟩, ?_, ⟨expires, hexpires, hbound⟩, observed, hobserved, ?_⟩
    authorized := bool_of_isBool hauthorized }
  · rw [hissued, hexpires]
    simp only [intOf]
    omega
  · rw [hissued, hexpires]
    simp only [intOf]
    omega

/-! ## Comparisons -/

theorem same_int {v w : Value φ} {n m : Int} (hv : v = .int n) (hw : w = .int m) :
    (!differ v w) = true ↔ v = w := by
  rw [hv, hw, Bool.not_eq_true', differ_int, Value.int.injEq]

theorem same_uid {v w : Value φ} (hv : IsUid v) (hw : IsUid w) : (!differ v w) = true ↔ v = w := by
  obtain ⟨n, hv, -⟩ := hv
  obtain ⟨m, hw, -⟩ := hw
  exact same_int hv hw

theorem same_str {v w : Value φ} {text : PyStr} (hw : w = .str text) : (!differ v w) = true ↔ v = w := by
  rw [Bool.not_eq_true', differ, Bool.not_eq_false', hw, pyEq_str_iff]

theorem same_uuid {v w : Value φ} (hw : IsCanonicalUuid w) : (!differ v w) = true ↔ v = w := by
  obtain ⟨text, hw, -⟩ := hw
  exact same_str hw

theorem same_digest {v w : Value φ} (hw : IsDigest w) : (!differ v w) = true ↔ v = w := by
  obtain ⟨text, hw, -⟩ := hw
  exact same_str hw

theorem isTrue_of_bool {v : Value φ} (h : ∃ b, v = .bool b) : v.isTrue = true ↔ v = .bool true := by
  obtain ⟨b, rfl⟩ := h
  cases b with
  | false => exact ⟨nofun, nofun⟩
  | true => exact ⟨fun _ => rfl, fun _ => rfl⟩

variable {set : UserMappingSet} {request : OperationRequest φ} {caller : CallerEvidence φ}
  {policy : OperationPolicy} {persistent : PersistentEvidence φ} {aliased : AliasEvidence φ}
  {operationGrant activationGrant : Option (PolicyGrant φ)} {selected : UserMapping}
  {decision : UserPolicyDecision φ}

/-- **A valid grant that is bound and authorized** is one that covers the action. -/
theorem covers_iff (hrequest : RequestValid request policy) (hcaller : CallerValid caller) {action : PyStr}
    {grant : PolicyGrant φ} (hgrant : GrantValid grant request) :
    Covers set request caller action grant ↔
      grantBound grant action caller request set.generation = true ∧ grant.authorized.isTrue = true := by
  rw [isTrue_of_bool hgrant.authorized, grantBound]
  simp only [Bool.and_eq_true]
  rw [same_str rfl, same_uid hgrant.caller hcaller.uid, same_digest hcaller.account,
    same_uid hgrant.target hrequest.target, same_str rfl, same_uuid hrequest.operationId,
    same_uuid hrequest.boot, same_uuid hrequest.runtime]
  constructor
  · intro h
    exact ⟨⟨⟨⟨⟨⟨⟨⟨h.action, h.callerUid⟩, h.account⟩, h.target⟩, h.mapping⟩, h.operation⟩, h.boot⟩, h.runtime⟩,
      h.authorized⟩
  · rintro ⟨⟨⟨⟨⟨⟨⟨⟨haction, huid⟩, haccount⟩, htarget⟩, hmapping⟩, hoperation⟩, hboot⟩, hruntime⟩, hauthorized⟩
    exact ⟨hauthorized, haction, huid, haccount, htarget, hmapping, hoperation, hboot, hruntime, hgrant.live⟩

/-! ## What a decision says -/

variable (set request caller policy persistent aliased operationGrant activationGrant) in
/-- A decision permits the operation, or the activation, or nothing. -/
inductive Decided : UserPolicyDecision φ → Prop
  | authorized {selected : UserMapping} {grant : PolicyGrant φ} :
      MayOperate set request caller policy operationGrant selected →
      InState policy persistent aliased [.ready] selected → operationGrant = some grant →
      GrantValid grant request →
      Decided { decisionOf request policy .authorized with
        selectedMapping := some selected, readinessState := some .ready, operationPermitted := true,
        binding := some (bindingOf set request caller policy grant none) }
  | activationAuthorized {selected : UserMapping} {grant activation : PolicyGrant φ}
      {readiness : ReadinessState} :
      MayOperate set request caller policy operationGrant selected →
      InState policy persistent aliased activatableStates selected → operationGrant = some grant →
      GrantValid grant request → activationGrant = some activation →
      Covers set request caller activateAction activation → GrantValid activation request →
      Decided { decisionOf request policy .activationAuthorized with
        selectedMapping := some selected, readinessState := some readiness, activationRequired := true,
        activationPermitted := true,
        binding := some (bindingOf set request caller policy grant (some activation)) }
  | denied {decision : UserPolicyDecision φ} :
      decision.operationPermitted = false → decision.activationPermitted = false →
      decision.binding = none →
      (∀ selected, MayOperate set request caller policy operationGrant selected →
        ¬ InState policy persistent aliased [.ready] selected ∧
        (InState policy persistent aliased activatableStates selected →
          ∀ activation, activationGrant = some activation →
            ¬ Covers set request caller activateAction activation)) →
      Decided decision

/-- A state that an activation may change is not ready, and does not quarantine. -/
theorem activatable {state : ReadinessState} (h : state ∈ activatableStates) :
    state.quarantines = false ∧ state ≠ .ready :=
  (by decide : ∀ state ∈ activatableStates, state.quarantines = false ∧ state ≠ .ready) state h

/-- A mapping that may be operated on is the one that `resolve` finds. -/
theorem MayOperate.resolve (h : MayOperate set request caller policy operationGrant selected)
    (hset : WellFormed set.mappings) :
    set.resolve (intOf request.targetLinuxUid) policy.capability = .ok selected := by
  rw [h.target]
  exact (resolve_ok hset).mpr ⟨h.mapped, rfl, h.enabled, h.capability⟩

/-- There is one. -/
theorem MayOperate.eq {other : UserMapping} (h : MayOperate set request caller policy operationGrant selected)
    (hother : MayOperate set request caller policy operationGrant other) : other = selected := by
  refine h.unique other hother.mapped ?_
  exact Value.int.inj (hother.target.symm.trans h.target)

/-- There is one state. -/
theorem InState.mem {states others : List ReadinessState} (h : InState policy persistent aliased states selected)
    (hother : InState policy persistent aliased others selected) : ∃ state ∈ states, state ∈ others := by
  obtain ⟨readiness, hassess, hstate⟩ := h
  obtain ⟨other, hassess', hstate'⟩ := hother
  cases hassess.symm.trans hassess'
  exact ⟨readiness.state, hstate, hstate'⟩

/-- A decision that names no one who may operate. -/
theorem Decided.nobody (hoperation : decision.operationPermitted = false)
    (hactivation : decision.activationPermitted = false) (hbinding : decision.binding = none)
    (h : ∀ selected, ¬ MayOperate set request caller policy operationGrant selected) :
    Decided set request caller policy persistent aliased operationGrant activationGrant decision :=
  .denied hoperation hactivation hbinding fun selected hmay => absurd hmay (h selected)

/-- A decision on a target in no state that permits. -/
theorem Decided.unready {readiness : ReadinessDecision}
    (hmay : MayOperate set request caller policy operationGrant selected)
    (hassess : assess selected policy.capability persistent aliased = .ok readiness)
    (hoperation : decision.operationPermitted = false)
    (hactivation : decision.activationPermitted = false) (hbinding : decision.binding = none)
    (hready : readiness.state ≠ .ready)
    (h : readiness.state ∈ activatableStates → ∀ activation, activationGrant = some activation →
      ¬ Covers set request caller activateAction activation) :
    Decided set request caller policy persistent aliased operationGrant activationGrant decision := by
  refine .denied hoperation hactivation hbinding fun other hother => ?_
  cases hmay.eq hother
  constructor
  · rintro ⟨found, hfound, hstate⟩
    cases hassess.symm.trans hfound
    exact hready (List.mem_singleton.mp hstate)
  · rintro ⟨found, hfound, hstate⟩
    cases hassess.symm.trans hfound
    exact h hstate

/-! ## Every way through the policy -/

theorem authorizeActivation_decided (hrequest : RequestValid request policy) (hcaller : CallerValid caller)
    {grant : PolicyGrant φ} (hgrant : GrantValid grant request) {readiness : ReadinessDecision}
    (hmay : MayOperate set request caller policy (some grant) selected)
    (hassess : assess selected policy.capability persistent aliased = .ok readiness)
    (hstate : readiness.state ∈ activatableStates)
    (h : authorizeActivation set request caller policy selected readiness.state grant activationGrant =
      .ok decision) :
    Decided set request caller policy persistent aliased (some grant) activationGrant decision := by
  have hready : readiness.state ≠ .ready := (activatable hstate).2
  cases activationGrant with
  | none =>
    cases h
    exact .unready hmay hassess rfl rfl rfl hready fun _ _ => nofun
  | some activation =>
    obtain ⟨⟨⟩, hvalid, h⟩ := bind_ok h
    have hactivation := validateGrant_ok hrequest.observed hvalid
    cases h
    have hcovers : Covers set request caller activateAction _ ↔ _ :=
      covers_iff hrequest hcaller hactivation
    have hrefused : ∀ {p : Prop}, ¬ p → (Covers set request caller activateAction activation → p) →
        readiness.state ∈ activatableStates → ∀ other, some activation = some other →
          ¬ Covers set request caller activateAction other := by
      rintro p hp himplies - _ ⟨⟩ hother
      exact hp (himplies hother)
    unfold decideActivation
    by_cases hbound : grantBound activation activateAction caller request set.generation = true
    · rw [if_neg (not_not.mpr hbound)]
      by_cases hauthorized : activation.authorized.isTrue = true
      · rw [if_neg (not_not.mpr hauthorized)]
        exact .activationAuthorized hmay ⟨readiness, hassess, hstate⟩ rfl hgrant rfl
          (hcovers.mpr ⟨hbound, hauthorized⟩) hactivation
      · rw [if_pos hauthorized]
        exact .unready hmay hassess rfl rfl rfl hready
          (hrefused hauthorized fun hother => (hcovers.mp hother).2)
    · rw [if_pos hbound]
      exact .unready hmay hassess rfl rfl rfl hready (hrefused hbound fun hother => (hcovers.mp hother).1)

theorem authorizeReadiness_decided (hrequest : RequestValid request policy) (hcaller : CallerValid caller)
    {grant : PolicyGrant φ} (hgrant : GrantValid grant request) {readiness : ReadinessDecision}
    (hmay : MayOperate set request caller policy (some grant) selected)
    (hassess : assess selected policy.capability persistent aliased = .ok readiness)
    (h : authorizeReadiness set request caller policy selected readiness grant activationGrant =
      .ok decision) :
    Decided set request caller policy persistent aliased (some grant) activationGrant decision := by
  have hquarantine := (assess_ok hassess).2.quarantine_eq
  unfold authorizeReadiness at h
  by_cases hquarantined : readiness.quarantine = true
  · rw [if_pos hquarantined] at h
    cases h
    rw [hquarantine] at hquarantined
    refine .unready hmay hassess rfl rfl rfl ?_ ?_
    · intro hready
      rw [hready] at hquarantined
      exact nomatch hquarantined
    · intro hstate
      exact nomatch (activatable hstate).1.symm.trans hquarantined
  · rw [if_neg hquarantined] at h
    by_cases hready : readiness.state = .ready
    · rw [if_pos hready] at h
      cases h
      rw [hready]
      exact .authorized hmay ⟨readiness, hassess, List.mem_singleton.mpr hready⟩ rfl hgrant
    · rw [if_neg hready] at h
      by_cases hstate : readiness.state ∈ activatableStates
      · rw [if_pos hstate] at h
        exact authorizeActivation_decided hrequest hcaller hgrant hmay hassess hstate h
      · rw [if_neg hstate] at h
        cases h
        exact .unready hmay hassess rfl rfl rfl hready fun hother => absurd hother hstate

theorem authorizeGranted_decided (hrequest : RequestValid request policy) (hcaller : CallerValid caller)
    {grant : PolicyGrant φ} (hgrant : GrantValid grant request)
    (hmay : Covers set request caller policy.action grant →
      (policy.mutation = true → request.modificationAllowed = .bool true) →
      MayOperate set request caller policy (some grant) selected)
    (h : authorizeGranted set request caller policy selected persistent aliased grant activationGrant =
      .ok decision) :
    Decided set request caller policy persistent aliased (some grant) activationGrant decision := by
  have hcovers : Covers set request caller policy.action _ ↔ _ := covers_iff hrequest hcaller hgrant
  have hcovered : ∀ {other : UserMapping}, MayOperate set request caller policy (some grant) other →
      Covers set request caller policy.action grant := by
    intro other hother
    obtain ⟨_, ⟨⟩, hother⟩ := hother.granted
    exact hother
  unfold authorizeGranted at h
  by_cases hbound : grantBound grant policy.action caller request set.generation = true
  · rw [if_neg (not_not.mpr hbound)] at h
    by_cases hauthorized : grant.authorized.isTrue = true
    · rw [if_neg (not_not.mpr hauthorized)] at h
      by_cases hmodification : policy.mutation = true ∧ ¬ request.modificationAllowed.isTrue = true
      · rw [if_pos hmodification] at h
        cases h
        refine .nobody rfl rfl rfl fun other hother => hmodification.2 ?_
        rw [hother.modification hmodification.1]
        rfl
      · rw [if_neg hmodification] at h
        have hallowed : policy.mutation = true → request.modificationAllowed = .bool true := by
          intro hmutation
          refine (isTrue_of_bool hrequest.modification).mp ?_
          by_contra hnot
          exact hmodification ⟨hmutation, hnot⟩
        split at h
        · exact nomatch h
        · rename_i readiness hassess
          exact authorizeReadiness_decided hrequest hcaller hgrant
            (hmay (hcovers.mpr ⟨hbound, hauthorized⟩) hallowed) hassess h
    · rw [if_pos hauthorized] at h
      cases h
      exact .nobody rfl rfl rfl fun other hother => hauthorized (hcovers.mp (hcovered hother)).2
  · rw [if_pos hbound] at h
    cases h
    exact .nobody rfl rfl rfl fun other hother => hbound (hcovers.mp (hcovered hother)).1

theorem authorizeCaller_decided (hset : WellFormed set.mappings) (hrequest : RequestValid request policy)
    (hcaller : CallerValid caller)
    (h : authorizeCaller set request caller policy persistent aliased operationGrant activationGrant =
      .ok decision) :
    Decided set request caller policy persistent aliased operationGrant activationGrant decision := by
  unfold authorizeCaller at h
  by_cases hself : caller.linuxUid = request.targetLinuxUid
  · have hsame : ¬ differ caller.linuxUid request.targetLinuxUid = true :=
      Bool.eq_false_iff.mp (Bool.not_eq_true' _ |>.mp ((same_uid hcaller.uid hrequest.target).mpr hself))
    rw [if_neg hsame] at h
    by_cases hsession : ¬ caller.authenticated.isTrue = true ∨ ¬ caller.activeLocalSession.isTrue = true
    · rw [if_pos hsession] at h
      cases h
      refine .nobody rfl rfl rfl fun other hother => ?_
      rw [hother.authenticated, hother.session] at hsession
      exact hsession.elim (fun hnot => hnot rfl) fun hnot => hnot rfl
    · rw [if_neg hsession] at h
      obtain ⟨hauthenticated, hlocal⟩ := not_or.mp hsession
      have hauthenticated := (isTrue_of_bool hcaller.authenticated).mp (not_not.mp hauthenticated)
      have hlocal := (isTrue_of_bool hcaller.session).mp (not_not.mp hlocal)
      split at h
      · rename_i error hresolve
        cases h
        exact .nobody rfl rfl rfl fun other hother => nomatch hresolve.symm.trans (hother.resolve hset)
      · rename_i selected hresolve
        obtain ⟨hmapped, huid, henabled, hcapability⟩ := (resolve_ok hset).mp hresolve
        obtain ⟨n, htarget, -⟩ := hrequest.target
        have hunique : ∀ other ∈ set.mappings, other.linuxUid = selected.linuxUid → other = selected :=
          fun other hmem hother => List.inj_on_of_nodup_map hset.oneToOne.linuxUid hmem hmapped hother
        have hselected : ∀ {other : UserMapping},
            MayOperate set request caller policy operationGrant other → other = selected := by
          intro other hother
          exact Except.ok.inj ((hother.resolve hset).symm.trans hresolve)
        unfold authorizeSelected at h
        by_cases haccount : differ caller.linuxAccountGeneration (.str selected.linuxAccountGeneration) = true
        · rw [if_pos haccount] at h
          cases h
          refine .nobody rfl rfl rfl fun other hother => ?_
          rw [hother.account, hselected hother, differ_self_str] at haccount
          exact nomatch haccount
        · rw [if_neg haccount] at h
          have haccount := (same_str rfl).mp (Bool.not_eq_true' _ |>.mpr (eq_false_of_ne_true haccount))
          cases operationGrant with
          | none =>
            cases h
            refine .nobody rfl rfl rfl fun other hother => ?_
            obtain ⟨_, ⟨⟩, -⟩ := hother.granted
          | some grant =>
            obtain ⟨⟨⟩, hvalid, h⟩ := bind_ok h
            have hgrant := validateGrant_ok hrequest.observed hvalid
            refine authorizeGranted_decided hrequest hcaller hgrant (fun hcovers hmodification => ?_) h
            exact {
              self := hself
              authenticated := hauthenticated
              session := hlocal
              mapped := hmapped
              target := by rw [htarget, huid, htarget]; rfl
              unique := hunique
              enabled := henabled
              capability := hcapability
              account := haccount
              granted := ⟨grant, rfl, hcovers⟩
              modification := hmodification }
  · have hdiffer : differ caller.linuxUid request.targetLinuxUid = true := by
      by_contra hnot
      exact hself ((same_uid hcaller.uid hrequest.target).mp
        (Bool.not_eq_true' _ |>.mpr (eq_false_of_ne_true hnot)))
    rw [if_pos hdiffer] at h
    cases h
    exact .nobody rfl rfl rfl fun other hother => hself hother.self

/-- **A decision is one of three kinds.** -/
theorem authorize_decided (hset : WellFormed set.mappings)
    (h : authorize set request caller persistent aliased operationGrant activationGrant = .ok decision) :
    ∃ policy, RequestValid request policy ∧ CallerValid caller ∧
      Decided set request caller policy persistent aliased operationGrant activationGrant decision := by
  obtain ⟨policy, hpolicy, h⟩ := bind_ok h
  obtain ⟨⟨⟩, hcaller, h⟩ := bind_ok h
  have hrequest := validateRequest_ok hpolicy
  have hcaller := validateCaller_ok hcaller
  exact ⟨policy, hrequest, hcaller, authorizeCaller_decided hset hrequest hcaller h⟩

/-! ## The use of a decision -/

/-- What has passed the tests of a binding. -/
structure BindingValid (binding : PolicyBinding φ) : Prop where
  mapping : IsDigest binding.mappingGeneration
  account : IsDigest binding.linuxAccountGeneration
  operation : IsCanonicalUuid binding.operationId
  boot : IsCanonicalUuid binding.linuxBootUuid
  runtime : IsCanonicalUuid binding.runtimeGeneration
  expires : ∃ n, binding.expiresMonotonicNs = .int n ∧ 0 < n ∧ n < 2 ^ 63
  caller : IsUid binding.callerLinuxUid
  target : IsUid binding.targetLinuxUid
  authorization : IsCanonicalUuid binding.operationAuthorizationId
  activation : isNone binding.activationAuthorizationId = false → IsCanonicalUuid binding.activationAuthorizationId

theorem validateBinding_ok {binding : PolicyBinding φ} :
    validateBinding binding = .ok () ↔ BindingValid binding := by
  constructor
  · intro h
    obtain ⟨mapping, hmapping, h⟩ := bind_ok h
    obtain ⟨account, haccount, h⟩ := bind_ok h
    obtain ⟨operation, hoperation, h⟩ := bind_ok h
    obtain ⟨boot, hboot, h⟩ := bind_ok h
    obtain ⟨runtime, hruntime, h⟩ := bind_ok h
    obtain ⟨expiry, hexpiry, h⟩ := bind_ok h
    obtain ⟨hzero, h⟩ := raiseIf_ok.mp h
    obtain ⟨callerUid, hcaller, h⟩ := bind_ok h
    obtain ⟨targetUid, htarget, h⟩ := bind_ok h
    obtain ⟨authorization, hauthorization, h⟩ := bind_ok h
    obtain ⟨hexpires, hnonnegative, hbound⟩ := monotonic_ok.mp hexpiry
    exact {
      mapping := ⟨mapping, policyDigest_ok.mp hmapping⟩
      account := ⟨account, policyDigest_ok.mp haccount⟩
      operation := ⟨operation, policyUuid_ok.mp hoperation⟩
      boot := ⟨boot, policyUuid_ok.mp hboot⟩
      runtime := ⟨runtime, policyUuid_ok.mp hruntime⟩
      expires := ⟨expiry, hexpires, by omega, hbound⟩
      caller := ⟨callerUid, policyUid_ok.mp hcaller⟩
      target := ⟨targetUid, policyUid_ok.mp htarget⟩
      authorization := ⟨authorization, policyUuid_ok.mp hauthorization⟩
      activation := fun hsome => by
        rw [if_neg (by rw [hsome]; exact Bool.false_ne_true)] at h
        obtain ⟨activation, hactivation, -⟩ := bind_ok h
        exact ⟨activation, policyUuid_ok.mp hactivation⟩ }
  · intro h
    obtain ⟨mapping, hmapping⟩ := h.mapping
    obtain ⟨account, haccount⟩ := h.account
    obtain ⟨operation, hoperation⟩ := h.operation
    obtain ⟨boot, hboot⟩ := h.boot
    obtain ⟨runtime, hruntime⟩ := h.runtime
    obtain ⟨expiry, hexpires, hpositive, hbound⟩ := h.expires
    obtain ⟨callerUid, hcaller⟩ := h.caller
    obtain ⟨targetUid, htarget⟩ := h.target
    obtain ⟨authorization, hauthorization⟩ := h.authorization
    refine bind_eq_ok.mpr ⟨mapping, policyDigest_ok.mpr hmapping, ?_⟩
    refine bind_eq_ok.mpr ⟨account, policyDigest_ok.mpr haccount, ?_⟩
    refine bind_eq_ok.mpr ⟨operation, policyUuid_ok.mpr hoperation, ?_⟩
    refine bind_eq_ok.mpr ⟨boot, policyUuid_ok.mpr hboot, ?_⟩
    refine bind_eq_ok.mpr ⟨runtime, policyUuid_ok.mpr hruntime, ?_⟩
    refine bind_eq_ok.mpr ⟨expiry, monotonic_ok.mpr ⟨hexpires, Int.le_of_lt hpositive, hbound⟩, ?_⟩
    refine raiseIf_ok.mpr ⟨by omega, ?_⟩
    refine bind_eq_ok.mpr ⟨callerUid, policyUid_ok.mpr hcaller, ?_⟩
    refine bind_eq_ok.mpr ⟨targetUid, policyUid_ok.mpr htarget, ?_⟩
    refine bind_eq_ok.mpr ⟨authorization, policyUuid_ok.mpr hauthorization, ?_⟩
    cases hnone : isNone binding.activationAuthorizationId with
    | true => rfl
    | false =>
      obtain ⟨activation, hactivation⟩ := h.activation hnone
      rw [if_neg Bool.false_ne_true]
      exact bind_eq_ok.mpr ⟨activation, policyUuid_ok.mpr hactivation, rfl⟩

/-- A decision that is bound to its use. -/
structure BoundTo (decision : UserPolicyDecision φ) (binding : PolicyBinding φ) (policy : OperationPolicy)
    (set : UserMappingSet) (selected : UserMapping) (capability : PyStr)
    (linuxBootUuid runtimeGeneration : Value φ) (observed : Int) (activation : Bool) : Prop where
  state : decision.state = expectedState activation
  resolved : decision.selectedMapping = some selected
  action : decision.policyAction = policy.action
  policyCapability : binding.capability = .str policy.capability
  mapping : binding.mappingGeneration = .str set.generation
  account : binding.linuxAccountGeneration = .str selected.linuxAccountGeneration
  boot : binding.linuxBootUuid = linuxBootUuid
  runtime : binding.runtimeGeneration = runtimeGeneration
  live : observed ≤ intOf binding.expiresMonotonicNs
  target : binding.targetLinuxUid = .int selected.linuxUid
  caller : binding.callerLinuxUid = .int selected.linuxUid
  capability : binding.capability = .str capability
  mapped : selected ∈ set.mappings
  activationOnly : activation = true → decision.activationPermitted = true ∧ decision.operationPermitted = false
  operationOnly : activation = false → decision.operationPermitted = true ∧ decision.activationPermitted = false
  authorization : activation = true → isNone binding.activationAuthorizationId = false

variable {binding : PolicyBinding φ} {capability : PyStr} {linuxBootUuid runtimeGeneration : Value φ}
  {observed : Int} {activation : Bool}

theorem not_unbound (hbinding : BindingValid binding) (hboot : IsCanonicalUuid linuxBootUuid)
    (hruntime : IsCanonicalUuid runtimeGeneration) :
    ¬ unbound decision binding policy set selected capability linuxBootUuid runtimeGeneration observed
        activation = true ↔
      BoundTo decision binding policy set selected capability linuxBootUuid runtimeGeneration observed
        activation := by
  have hsame : ∀ {v w : Value φ}, ((!differ v w) = true ↔ v = w) → (differ v w = false ↔ v = w) := by
    intro v w h
    rw [← h, Bool.not_eq_true']
  obtain ⟨callerUid, hcaller, -⟩ := hbinding.caller
  obtain ⟨targetUid, htarget, -⟩ := hbinding.target
  rw [Bool.not_eq_true, unbound]
  simp only [Bool.or_eq_false_iff, bne_eq_false_iff_eq, decide_eq_false_iff_not, not_not, Int.not_lt,
    hsame (same_str rfl), hsame (same_uuid hboot), hsame (same_uuid hruntime), hsame (same_int htarget rfl),
    hsame (same_int hcaller rfl)]
  constructor
  · rintro ⟨⟨⟨⟨⟨⟨⟨⟨⟨⟨⟨⟨⟨⟨⟨hstate, hselected⟩, haction⟩, hpolicy⟩, hmapping⟩, haccount⟩, hboot⟩, hruntime⟩,
      hlive⟩, htarget⟩, hcaller⟩, hcapability⟩, hmapped⟩, hactivation⟩, hoperation⟩, hauthorization⟩
    refine ⟨hstate, hselected, haction, hpolicy, hmapping, haccount, hboot, hruntime, hlive, htarget, hcaller,
      hcapability, hmapped, ?_, ?_, ?_⟩
    · rintro rfl
      simpa using hactivation
    · rintro rfl
      simpa using hoperation
    · rintro rfl
      simpa using hauthorization
  · intro h
    refine ⟨⟨⟨⟨⟨⟨⟨⟨⟨⟨⟨⟨⟨⟨⟨h.state, h.resolved⟩, h.action⟩, h.policyCapability⟩, h.mapping⟩, h.account⟩, h.boot⟩,
      h.runtime⟩, h.live⟩, h.target⟩, h.caller⟩, h.capability⟩, h.mapped⟩, ?_⟩, ?_⟩, ?_⟩
    · cases activation with
      | false => rfl
      | true => simp [h.activationOnly rfl]
    · cases activation with
      | false => simp [h.operationOnly rfl]
      | true => rfl
    · cases activation with
      | false => rfl
      | true => simp [h.authorization rfl]

/-- **The use of any decision**: it is live and bound to exactly this use. -/
theorem requireBoundAuthority_ok {observedMonotonicNs id : Value φ} :
    requireBoundAuthority decision set selected capability linuxBootUuid runtimeGeneration observedMonotonicNs
        activation = .ok id ↔
      IsCanonicalUuid linuxBootUuid ∧ IsCanonicalUuid runtimeGeneration ∧
      ∃ observed, observedMonotonicNs = .int observed ∧ 0 ≤ observed ∧ observed < 2 ^ 63 ∧
        isHashable decision.operation = true ∧
        ∃ binding policy, decision.binding = some binding ∧ BindingValid binding ∧
          policyNamed decision.operation = some policy ∧
          BoundTo decision binding policy set selected capability linuxBootUuid runtimeGeneration observed
            activation ∧
          id = binding.operationId := by
  constructor
  · intro h
    obtain ⟨boot, hboot, h⟩ := bind_ok h
    obtain ⟨runtime, hruntime, h⟩ := bind_ok h
    obtain ⟨observed, hobserved, h⟩ := bind_ok h
    obtain ⟨hhashable, h⟩ := raiseIf_ok.mp h
    have hboot : IsCanonicalUuid linuxBootUuid := ⟨boot, policyUuid_ok.mp hboot⟩
    have hruntime : IsCanonicalUuid runtimeGeneration := ⟨runtime, policyUuid_ok.mp hruntime⟩
    obtain ⟨hobserved, hrange⟩ := monotonic_ok.mp hobserved
    refine ⟨hboot, hruntime, observed, hobserved, hrange.1, hrange.2, not_not.mp hhashable, ?_⟩
    split at h
    · exact nomatch h
    · rename_i binding hbinding
      split at h
      · exact nomatch h
      · rename_i hvalid
        split at h
        · exact nomatch h
        · rename_i policy hpolicy
          obtain ⟨hbound, h⟩ := raiseIf_ok.mp h
          have hvalid := validateBinding_ok.mp hvalid
          exact ⟨binding, policy, hbinding, hvalid, hpolicy, (not_unbound hvalid hboot hruntime).mp hbound,
            (Except.ok.inj h).symm⟩
  · rintro ⟨⟨boot, hboot⟩, ⟨runtime, hruntime⟩, observed, hobserved, hlow, hhigh, hhashable, binding, policy,
      hbinding, hvalid, hpolicy, hbound, rfl⟩
    refine bind_eq_ok.mpr ⟨boot, policyUuid_ok.mpr hboot, ?_⟩
    refine bind_eq_ok.mpr ⟨runtime, policyUuid_ok.mpr hruntime, ?_⟩
    refine bind_eq_ok.mpr ⟨observed, monotonic_ok.mpr ⟨hobserved, hlow, hhigh⟩, ?_⟩
    refine raiseIf_ok.mpr ⟨not_not.mpr hhashable, ?_⟩
    simp only [hbinding, validateBinding_ok.mpr hvalid, hpolicy]
    exact raiseIf_ok.mpr ⟨(not_unbound hvalid ⟨boot, hboot⟩ ⟨runtime, hruntime⟩).mpr hbound, rfl⟩

/-! ## Results -/

theorem Decided.operation_iff
    (h : Decided set request caller policy persistent aliased operationGrant activationGrant decision) :
    decision.operationPermitted = true ↔
      ∃ selected, MayOperate set request caller policy operationGrant selected ∧
        InState policy persistent aliased [.ready] selected := by
  cases h with
  | authorized hmay hready hgrant hvalid => exact ⟨fun _ => ⟨_, hmay, hready⟩, fun _ => rfl⟩
  | activationAuthorized hmay hstate hgrant hvalid hactivation hcovers hvalid' =>
    constructor
    · intro h
      exact nomatch h
    · rintro ⟨other, hother, hready⟩
      cases hmay.eq hother
      obtain ⟨state, hstate, hmem⟩ := hstate.mem hready
      exact absurd (List.mem_singleton.mp hmem) (activatable hstate).2
  | denied hoperation hactivation hbinding hnot =>
    constructor
    · intro h
      exact nomatch hoperation.symm.trans h
    · rintro ⟨other, hother, hready⟩
      exact absurd hready (hnot other hother).1

theorem Decided.activation_iff
    (h : Decided set request caller policy persistent aliased operationGrant activationGrant decision) :
    decision.activationPermitted = true ↔
      ∃ selected, MayOperate set request caller policy operationGrant selected ∧
        InState policy persistent aliased activatableStates selected ∧
        ∃ activation, activationGrant = some activation ∧
          Covers set request caller activateAction activation := by
  cases h with
  | authorized hmay hready hgrant hvalid =>
    constructor
    · intro h
      exact nomatch h
    · rintro ⟨other, hother, hstate, -⟩
      cases hmay.eq hother
      obtain ⟨state, hstate, hmem⟩ := hstate.mem hready
      exact absurd (List.mem_singleton.mp hmem) (activatable hstate).2
  | activationAuthorized hmay hstate hgrant hvalid hactivation hcovers hvalid' =>
    exact ⟨fun _ => ⟨_, hmay, hstate, _, hactivation, hcovers⟩, fun _ => rfl⟩
  | denied hoperation hactivation hbinding hnot =>
    constructor
    · intro h
      exact nomatch hactivation.symm.trans h
    · rintro ⟨other, hother, hstate, activation, hsome, hcovers⟩
      exact absurd hcovers ((hnot other hother).2 hstate activation hsome)

/-- A decision never permits both. -/
theorem Decided.exclusive
    (h : Decided set request caller policy persistent aliased operationGrant activationGrant decision) :
    ¬ (decision.operationPermitted = true ∧ decision.activationPermitted = true) := by
  cases h with
  | authorized _ _ _ _ => exact fun h => nomatch h.2
  | activationAuthorized _ _ _ _ _ _ _ => exact fun h => nomatch h.1
  | denied hoperation _ _ _ => exact fun h => nomatch hoperation.symm.trans h.1

/-- The binding of a decision has what its tests ask for. -/
theorem bindingOf_valid (activationGrant : Option (PolicyGrant φ)) (hrequest : RequestValid request policy)
    (hcaller : CallerValid caller) {grant : PolicyGrant φ} (hgrant : GrantValid grant request)
    (hcovers : grant.mappingGeneration = .str set.generation)
    (hactivation : ∀ activation, activationGrant = some activation → GrantValid activation request) :
    BindingValid (bindingOf set request caller policy grant activationGrant) := by
  have hlifetime : ∀ {grant : PolicyGrant φ}, GrantValid grant request →
      ∃ n, grant.expiresMonotonicNs = .int n ∧ 0 < n ∧ n < 2 ^ 63 := by
    intro grant hgrant
    obtain ⟨issued, hissued, hlow⟩ := hgrant.live.issued
    obtain ⟨expires, hexpires, hhigh⟩ := hgrant.live.expires
    have hlt := hgrant.live.lifetime.1
    rw [hissued, hexpires] at hlt
    simp only [intOf] at hlt
    exact ⟨expires, hexpires, by omega, hhigh⟩
  obtain ⟨digest, hdigest, hisDigest⟩ := hgrant.mapping
  obtain ⟨n, hn, hpositive, hbound⟩ := hlifetime hgrant
  refine {
    mapping := ⟨set.generation, rfl, ?_⟩
    account := hcaller.account
    operation := hrequest.operationId
    boot := hrequest.boot
    runtime := hrequest.runtime
    expires := ?_
    caller := hcaller.uid
    target := hrequest.target
    authorization := hgrant.authorization
    activation := ?_ }
  · rw [hcovers] at hdigest
    rw [Value.str.inj hdigest]
    exact hisDigest
  · cases activationGrant with
    | none => exact ⟨n, hn, hpositive, hbound⟩
    | some activation =>
      obtain ⟨m, hm, hpositive', hbound'⟩ := hlifetime (hactivation activation rfl)
      refine ⟨min n m, ?_, by omega, by omega⟩
      show Value.int (min (intOf grant.expiresMonotonicNs) (intOf activation.expiresMonotonicNs)) = _
      rw [hn, hm]
      rfl
  · cases activationGrant with
    | none => exact fun h => nomatch h
    | some activation => exact fun _ => (hactivation activation rfl).authorization

variable (set request policy operationGrant activationGrant decision) in
/-- What the use of a decision of `authorize` must be: the use that was permitted, on the same mapping file
    and with its mapping, for the capability of the operation, on the same boot and runtime, while the grants
    live. -/
structure Usable (used : UserMappingSet) (selected : UserMapping) (capability : PyStr)
    (linuxBootUuid runtimeGeneration observedMonotonicNs : Value φ) (activation : Bool) : Prop where
  permitted : if activation then decision.activationPermitted = true else decision.operationPermitted = true
  resolved : decision.selectedMapping = some selected
  generation : used.generation = set.generation
  mapped : selected ∈ used.mappings
  capability : capability = policy.capability
  boot : linuxBootUuid = request.linuxBootUuid
  runtime : runtimeGeneration = request.runtimeGeneration
  live : ∃ observed, observedMonotonicNs = .int observed ∧ 0 ≤ observed ∧
    (∀ grant, operationGrant = some grant → observed ≤ intOf grant.expiresMonotonicNs) ∧
    (activation = true → ∀ grant, activationGrant = some grant → observed ≤ intOf grant.expiresMonotonicNs)

/-- A decision that permits, as its use sees it. -/
structure Permits (decision : UserPolicyDecision φ) (flag : Bool) (operation : Value φ)
    (policy : OperationPolicy) (found : UserMapping) (binding : PolicyBinding φ) : Prop where
  state : decision.state = expectedState flag
  operation : decision.operation = operation
  action : decision.policyAction = policy.action
  operationOnly : decision.operationPermitted = !flag
  activationOnly : decision.activationPermitted = flag
  resolved : decision.selectedMapping = some found
  binding : decision.binding = some binding

/-- **The use of a decision that permits**: everything that may differ is compared with the binding. -/
theorem Permits.use (flag : Bool) {found : UserMapping} {grant : PolicyGrant φ}
    {activationUsed : Option (PolicyGrant φ)} {used : UserMappingSet} {id observedMonotonicNs : Value φ}
    (hrequest : RequestValid request policy)
    (hmay : MayOperate set request caller policy operationGrant found)
    (hpermits : Permits decision flag request.operation policy found
      (bindingOf set request caller policy grant activationUsed))
    (hvalid : BindingValid (bindingOf set request caller policy grant activationUsed))
    (hflag : flag = true →
      isNone (bindingOf set request caller policy grant activationUsed).activationAuthorizationId = false) :
    requireBoundAuthority decision used selected capability linuxBootUuid runtimeGeneration
        observedMonotonicNs activation = .ok id ↔
      id = request.operationId ∧ activation = flag ∧ selected = found ∧ used.generation = set.generation ∧
        selected ∈ used.mappings ∧ capability = policy.capability ∧ linuxBootUuid = request.linuxBootUuid ∧
        runtimeGeneration = request.runtimeGeneration ∧
        ∃ observed, observedMonotonicNs = .int observed ∧ 0 ≤ observed ∧ observed ≤
          intOf (bindingOf set request caller policy grant activationUsed).expiresMonotonicNs := by
  have hflags : ∀ activation, decision.state = expectedState activation → activation = flag := by
    intro activation hstate
    rw [hpermits.state] at hstate
    cases flag
    all_goals cases activation
    all_goals first | rfl | exact nomatch hstate
  rw [requireBoundAuthority_ok]
  constructor
  · rintro ⟨-, -, observed, hobserved, hlow, -, -, binding, named, hsome, -, hnamed, hbound, rfl⟩
    obtain rfl := Option.some.inj (hsome.symm.trans hpermits.binding)
    have hcapability := Value.str.inj hbound.capability
    exact ⟨rfl, hflags activation hbound.state,
      Option.some.inj (hbound.resolved.symm.trans hpermits.resolved), (Value.str.inj hbound.mapping).symm,
      hbound.mapped, hcapability.symm, hbound.boot.symm, hbound.runtime.symm, observed, hobserved, hlow,
      hbound.live⟩
  · rintro ⟨rfl, rfl, rfl, hgeneration, hmapped, rfl, rfl, rfl, observed, hobserved, hlow, hlive⟩
    have hpolicy : policyNamed decision.operation = some policy := by
      rw [hpermits.operation]
      exact hrequest.policy
    have hhashable : isHashable decision.operation = true := by
      rw [hpermits.operation]
      exact hrequest.operation
    obtain ⟨expires, hexpires, -, hbound⟩ := hvalid.expires
    have hbelow : observed < 2 ^ 63 := by
      rw [hexpires] at hlive
      exact Int.lt_of_le_of_lt hlive hbound
    refine ⟨hrequest.boot, hrequest.runtime, observed, hobserved, hlow, hbelow, hhashable, _, policy,
      hpermits.binding, hvalid, hpolicy, ?_, rfl⟩
    refine {
      state := hpermits.state
      resolved := hpermits.resolved
      action := hpermits.action
      policyCapability := rfl
      mapping := congrArg Value.str hgeneration.symm
      account := hmay.account
      boot := rfl
      runtime := rfl
      live := hlive
      target := hmay.target
      caller := hmay.self.trans hmay.target
      capability := rfl
      mapped := hmapped
      activationOnly := fun hactivation => ?_
      operationOnly := fun hactivation => ?_
      authorization := hflag }
    · rw [hpermits.activationOnly, hpermits.operationOnly, hactivation]
      exact ⟨rfl, rfl⟩
    · rw [hpermits.activationOnly, hpermits.operationOnly, hactivation]
      exact ⟨rfl, rfl⟩

/-- **When a decision may be used.** -/
theorem Decided.requireBoundAuthority_iff {used : UserMappingSet} {id observedMonotonicNs : Value φ}
    (hrequest : RequestValid request policy) (hcaller : CallerValid caller)
    (h : Decided set request caller policy persistent aliased operationGrant activationGrant decision) :
    requireBoundAuthority decision used selected capability linuxBootUuid runtimeGeneration
        observedMonotonicNs activation = .ok id ↔
      id = request.operationId ∧
        Usable set request policy operationGrant activationGrant decision used selected capability
          linuxBootUuid runtimeGeneration observedMonotonicNs activation := by
  cases h with
  | @authorized found grant hmay hready hgrant hvalid =>
    obtain ⟨covered, hcovered, hcovers⟩ := hmay.granted
    obtain rfl := Option.some.inj (hgrant.symm.trans hcovered)
    have hbinding := bindingOf_valid none hrequest hcaller hvalid hcovers.mapping nofun
    rw [Permits.use false hrequest hmay ⟨rfl, rfl, rfl, rfl, rfl, rfl, rfl⟩ hbinding nofun]
    constructor
    · rintro ⟨rfl, rfl, rfl, hgeneration, hmapped, hcapability, hboot, hruntime, observed, hobserved, hlow,
        hlive⟩
      refine ⟨rfl, rfl, rfl, hgeneration, hmapped, hcapability, hboot, hruntime, observed, hobserved, hlow, ?_,
        nofun⟩
      rintro other hother
      exact (Option.some.inj (hgrant.symm.trans hother)) ▸ hlive
    · rintro ⟨rfl, husable⟩
      obtain ⟨observed, hobserved, hlow, hlive, -⟩ := husable.live
      have hactivation : activation = false := by
        cases activation with
        | false => rfl
        | true => exact nomatch husable.permitted
      exact ⟨rfl, hactivation, (Option.some.inj husable.resolved).symm, husable.generation, husable.mapped,
        husable.capability, husable.boot, husable.runtime, observed, hobserved, hlow, hlive grant hgrant⟩
  | @activationAuthorized found grant granted readiness hmay hstate hgrant hvalid hactivation hcovers hvalid' =>
    obtain ⟨covered, hcovered, hcovers'⟩ := hmay.granted
    obtain rfl := Option.some.inj (hgrant.symm.trans hcovered)
    have hbinding := bindingOf_valid (some granted) hrequest hcaller hvalid hcovers'.mapping
      fun other hother => Option.some.inj hother ▸ hvalid'
    obtain ⟨text, hauthorization, -⟩ := hvalid'.authorization
    have hexpires : intOf (bindingOf set request caller policy grant (some granted)).expiresMonotonicNs =
        min (intOf grant.expiresMonotonicNs) (intOf granted.expiresMonotonicNs) := rfl
    rw [Permits.use true hrequest hmay ⟨rfl, rfl, rfl, rfl, rfl, rfl, rfl⟩ hbinding
      fun _ => by rw [show (bindingOf set request caller policy grant (some granted)).activationAuthorizationId =
        granted.authorizationId from rfl, hauthorization]; rfl, hexpires]
    constructor
    · rintro ⟨rfl, rfl, rfl, hgeneration, hmapped, hcapability, hboot, hruntime, observed, hobserved, hlow,
        hlive⟩
      refine ⟨rfl, rfl, rfl, hgeneration, hmapped, hcapability, hboot, hruntime, observed, hobserved, hlow, ?_,
        ?_⟩
      · intro other hother
        obtain rfl := Option.some.inj (hgrant.symm.trans hother)
        omega
      · intro _ other hother
        obtain rfl := Option.some.inj (hactivation.symm.trans hother)
        omega
    · rintro ⟨rfl, husable⟩
      obtain ⟨observed, hobserved, hlow, hlive, hlive'⟩ := husable.live
      have hflag : activation = true := by
        cases activation with
        | false => exact nomatch husable.permitted
        | true => rfl
      have hgrantLive := hlive grant hgrant
      have hactivationLive := hlive' hflag granted hactivation
      exact ⟨rfl, hflag, (Option.some.inj husable.resolved).symm, husable.generation, husable.mapped,
        husable.capability, husable.boot, husable.runtime, observed, hobserved, hlow, by omega⟩
  | denied hoperation hactivation hbinding hnot =>
    rw [requireBoundAuthority_ok]
    constructor
    · rintro ⟨-, -, observed, -, -, -, -, binding, policy, hsome, -⟩
      exact nomatch hbinding.symm.trans hsome
    · rintro ⟨-, husable⟩
      have hpermitted := husable.permitted
      cases activation with
      | false => exact nomatch hoperation.symm.trans hpermitted
      | true => exact nomatch hactivation.symm.trans hpermitted

/-- **The policy permits exactly what was granted**, never the operation and the activation both, and what
    it permits may be used exactly as it was permitted. -/
theorem authorize_exact {data : Bytes} (hset : parse φ data = .ok set)
    (h : authorize set request caller persistent aliased operationGrant activationGrant = .ok decision) :
    ∃ policy, policyNamed request.operation = some policy ∧
      (decision.operationPermitted = true ↔
        ∃ selected, MayOperate set request caller policy operationGrant selected ∧
          InState policy persistent aliased [.ready] selected) ∧
      (decision.activationPermitted = true ↔
        ∃ selected, MayOperate set request caller policy operationGrant selected ∧
          InState policy persistent aliased activatableStates selected ∧
          ∃ activation, activationGrant = some activation ∧
            Covers set request caller activateAction activation) ∧
      ¬ (decision.operationPermitted = true ∧ decision.activationPermitted = true) ∧
      ∀ used selected capability linuxBootUuid runtimeGeneration observedMonotonicNs activation id,
        requireBoundAuthority decision used selected capability linuxBootUuid runtimeGeneration
            observedMonotonicNs activation = .ok id ↔
          id = request.operationId ∧
            Usable set request policy operationGrant activationGrant decision used selected capability
              linuxBootUuid runtimeGeneration observedMonotonicNs activation := by
  obtain ⟨policy, hrequest, hcaller, hdecided⟩ := authorize_decided (parse_ok hset).2 h
  exact ⟨policy, hrequest.policy, hdecided.operation_iff, hdecided.activation_iff, hdecided.exclusive,
    fun _ _ _ _ _ _ _ _ => hdecided.requireBoundAuthority_iff hrequest hcaller⟩

end Authority

/-! ## A sample -/

/-- Linux user 1000 asks to verify a finger. -/
def sampleRequest : OperationRequest Unit where
  operation := .str (py "verify")
  targetLinuxUid := .int 1000
  operationId := sampleUuid "eeee"
  linuxBootUuid := sampleUuid "0001"
  runtimeGeneration := sampleUuid "1001"
  observedMonotonicNs := .int 5
  modificationAllowed := .bool false

def sampleCaller : CallerEvidence Unit where
  linuxUid := .int 1000
  linuxAccountGeneration := .str sampleMapping.linuxAccountGeneration
  authenticated := .bool true
  activeLocalSession := .bool true

/-- A grant of an action, on the mapping file of a generation. -/
def sampleGrant (generation action : PyStr) : PolicyGrant Unit where
  authorizationId := sampleUuid "ffff"
  action := .str action
  callerLinuxUid := .int 1000
  linuxAccountGeneration := .str sampleMapping.linuxAccountGeneration
  targetLinuxUid := .int 1000
  mappingGeneration := .str generation
  operationId := sampleUuid "eeee"
  linuxBootUuid := sampleUuid "0001"
  runtimeGeneration := sampleUuid "1001"
  issuedMonotonicNs := .int 0
  expiresMonotonicNs := .int 10
  authorized := .bool true

/-- What the policy decides on a mapping file, with this grant. -/
def sampleDecision (set : UserMappingSet) : Option (UserPolicyDecision Unit) :=
  (authorize set sampleRequest sampleCaller samplePersistent (sampleAlias 0)
    (some (sampleGrant set.generation (py "org.t2linux.touchid.verify"))) none).toOption

/-- The policy permits it on the mapping file of this user. -/
theorem authorize_exact_sample : ∃ (data : Bytes) (set : UserMappingSet) (selected : UserMapping),
    parse Unit data = .ok set ∧
      InState ⟨py "verify", py "org.t2linux.touchid.verify", false⟩ samplePersistent (sampleAlias 0) [.ready]
        selected := by
  have hpermitted : ((encodeDocument Unit [sampleMapping]).bind fun data =>
      (parse Unit data).toOption.bind fun set =>
        (sampleDecision set).map UserPolicyDecision.operationPermitted) = some true := by decide +kernel
  obtain ⟨data, -, hpermitted⟩ := Option.bind_eq_some_iff.mp hpermitted
  obtain ⟨set, hset, hpermitted⟩ := Option.bind_eq_some_iff.mp hpermitted
  obtain ⟨decision, hdecision, hpermitted⟩ := Option.map_eq_some_iff.mp hpermitted
  have hparse := ok_of_toOption hset
  obtain ⟨policy, hpolicy, hoperation, -⟩ := authorize_exact hparse (ok_of_toOption hdecision)
  obtain rfl : policy = ⟨py "verify", py "org.t2linux.touchid.verify", false⟩ :=
    (Option.some.inj ((show policyNamed sampleRequest.operation = some _ from rfl).symm.trans hpolicy)).symm
  obtain ⟨selected, -, hready⟩ := hoperation.mp hpermitted
  exact ⟨data, set, selected, hparse, hready⟩

end T2TouchId.User
