/-
  What was checked when an operation is handed over?

  Problem: the broker looks at the caller, the mapping file, the keybag and the sensor many times, and each
  of them may change between any two looks.  Some looks come before the policy decides and some behind it;
  and the closure of the authority looks again when the transaction is over.

  1. **Specification** — `Trace`: what was seen, and what was looked at since the last live collection.
     `Handed`: what has to be seen before the consumer is called; `StillHolds`: before a dispatch.
  2. **Calls** — `revalidate_keeps`, …: how each helper changes the trace where it returns.
  3. **Simulation** — `Watched`: everything that was read so far is what the target was resolved from.
  4. **Result** — `run_hands_over`, for every run, and for every call of the closure.
-/
import T2TouchId.User.Authority
import T2TouchId.User.Broker

set_option linter.unusedSectionVars false

namespace T2TouchId.User.Broker

open T2TouchId.Calls T2TouchId.Python T2TouchId.Python.Json T2TouchId.Journal

section Handoff

variable {φ : Type} [JsonFloat φ]

/-! ## Specification -/

/-- What was seen so far. -/
structure Trace (φ : Type) where
  lives : List (LiveEvidence φ) := []
  mappings : List (Option UserMappingSet) := []
  digests : List (Value φ) := []
  /-- Since the last live collection. -/
  revalidated : Bool := false
  mapped : Bool := false
  keybagRead : Bool := false
  /-- The last ones. -/
  generation : Option (Value φ) := none
  time : Option (Value φ) := none
  /-- How often the consumer was called. -/
  handed : Nat := 0

/-- The authority of a decision has not expired at this reading of the clock. -/
def Unexpired (decision : UserPolicyDecision φ) (time : Option (Value φ)) : Prop :=
  ∃ binding now expiry, decision.binding = some binding ∧ time = some (.int now) ∧
    binding.expiresMonotonicNs = .int expiry ∧ now ≤ expiry

/-- The decision is one of the policy, on what was collected, and it permits. -/
def Permitted (authority : BrokerAuthority φ) : Prop :=
  authority.decision.state ∈ [PolicyState.authorized, .activationAuthorized] ∧
    ∃ request caller operationGrant activationGrant,
      authorize authority.mappingSet request caller authority.persistent authority.aliased operationGrant
        activationGrant = .ok authority.decision

/-- The closure looks at what the authority says. -/
structure Captures (authority : BrokerAuthority φ) : Prop where
  mapping : authority.dispatchAllowed.mappingSet = authority.mappingSet
  selected : authority.dispatchAllowed.selected = authority.selected
  decision : authority.dispatchAllowed.decision = authority.decision
  runtime : authority.dispatchAllowed.runtimeGeneration = authority.runtimeGeneration

/-- What was seen when the authority is handed over. -/
structure Handed (authority : BrokerAuthority φ) (g : Trace φ) : Prop where
  once : g.handed = 0
  live : ∃ second third, g.lives = [(authority.persistent, authority.aliased), second, third] ∧
    sameLive second (authority.persistent, authority.aliased) = true ∧
    sameLive third (authority.persistent, authority.aliased) = true
  mapping : ∀ read ∈ g.mappings, read = some authority.mappingSet
  keybag : ∀ digest ∈ g.digests, digest = .str authority.selected.keybagSha256
  /-- The last looks are behind the last live collection. -/
  revalidated : g.revalidated = true
  mapped : g.mapped = true
  keybagRead : g.keybagRead = true
  permitted : Permitted authority
  unexpired : Unexpired authority.decision g.time
  captures : Captures authority

/-- What was seen when a dispatch is allowed. -/
structure StillHolds (authority : BrokerAuthority φ) (g : Trace φ) : Prop where
  caller : g.revalidated = true
  mapping : g.mappings = [some authority.mappingSet]
  keybag : g.digests = [.str authority.selected.keybagSha256]
  generation : g.generation = some authority.runtimeGeneration
  unexpired : Unexpired authority.decision g.time

/-- Where a call returns, the trace moves. -/
def Reply.moves {α : Type} (g : Trace φ) (f : α → Trace φ) : Reply α → Trace φ
  | .raised => g
  | .returned a => f a

/-- How the trace moves with an answer. -/
def Trace.next (g : Trace φ) : (command : Command φ) → CommandAnswer command → Trace φ
  | .liveCollect _ _ _ => Reply.moves g fun
    | none => g
    | some live =>
      { g with lives := g.lives ++ [live], revalidated := false, mapped := false, keybagRead := false }
  | .loadOptional => Reply.moves g fun set => { g with mappings := g.mappings ++ [set], mapped := true }
  | .keybagReader _ => Reply.moves g fun digest => { g with digests := g.digests ++ [digest], keybagRead := true }
  | .revalidate => Reply.moves g fun _ => { g with revalidated := true }
  | .runtimeGeneration => Reply.moves g fun generation => { g with generation := some generation }
  | .clock => Reply.moves g fun time => { g with time := some time }
  | .consumer _ => fun _ => { g with handed := g.handed + 1 }
  | _ => fun _ => g

/-- The consumer is called once and behind the checks. -/
def Trace.Allows (g : Trace φ) : Command φ → Prop
  | .consumer authority => Handed authority g
  | _ => True

/-- Any answer may come. -/
def contract : Contract (Command φ) (CommandAnswer (φ := φ)) (Trace φ) where
  allows := Trace.Allows
  replies _ _ _ := True
  next := Trace.next

/-- A block that keeps to the contract; nothing is said of what it raises. -/
def Keeps {α : Type} (block : Transaction φ α) (g : Trace φ) (ok : α → Trace φ → Prop) : Prop :=
  Op.Meets contract block () g (fun a _ g' => ok a g') fun _ _ _ => True

section Rules

variable {α β : Type} {g : Trace φ} {ok : α → Trace φ → Prop}

theorem Keeps.pure {a : α} (h : ok a g) : Keeps (Pure.pure a) g ok := Op.Meets.pure h

theorem Keeps.raise {e : BrokerError} : Keeps (Op.raise e : Transaction φ α) g ok := Op.Meets.raise trivial

theorem Keeps.seq {p : Transaction φ α} {f : α → Transaction φ β} {M : α → Trace φ → Prop}
    {ok : β → Trace φ → Prop} (h : Keeps p g M) (hf : ∀ a g', M a g' → Keeps (f a) g' ok) :
    Keeps (p >>= f) g ok :=
  Op.Meets.seq h fun a _ g' => hf a g'

theorem Keeps.mono {p : Transaction φ α} {ok' : α → Trace φ → Prop} (h : Keeps p g ok)
    (hok : ∀ a g', ok a g' → ok' a g') : Keeps p g ok' :=
  Op.Meets.mono h (fun a _ g' => hok a g') fun _ _ _ => id

theorem Keeps.except {p : Transaction φ α} {handler : BrokerError → Transaction φ α} (h : Keeps p g ok)
    (hhandler : ∀ e g', Keeps (handler e) g' ok) : Keeps (p.except handler) g ok :=
  Op.Meets.except (Op.Meets.mono h (fun _ _ _ => id) fun e _ g' _ => hhandler e g')

theorem Keeps.leaving {p : Transaction φ α} {last : Transaction φ Unit} (h : Keeps p g ok)
    (hlast : ∀ g', Keeps last g' fun _ g'' => g'' = g') : Keeps (p.leaving last) g ok := by
  refine Op.Meets.leaving (Op.Meets.mono h (fun a _ g' ha => ?_) fun e _ g' _ => ?_)
  · refine Op.Meets.mono (hlast g') ?_ fun _ _ _ => id
    rintro _ _ _ rfl
    exact ha
  · exact Op.Meets.mono (hlast g') (fun _ _ _ _ => trivial) fun _ _ _ => id

end Rules

/-! ## Calls -/

section Calls

variable {g : Trace φ}

/-- A call that is allowed. -/
theorem ask_keeps (command : Command φ) (hallows : g.Allows command)
    {ok : CommandAnswer command → Trace φ → Prop} (h : ∀ reply, ok reply (g.next command reply)) :
    Keeps (ask command) g ok :=
  Op.Meets.ask hallows fun reply _ => h reply

theorem answered_keeps {α : Type} {reply : Reply α} {ok : α → Trace φ → Prop}
    (h : ∀ a, reply = .returned a → ok a g) : Keeps (answered reply) g ok := by
  cases reply with
  | raised => exact .raise
  | returned a => exact .pure (h a rfl)

/-- A call that leaves the trace alone. -/
theorem silent_keeps {α : Type} (command : Command φ) (reads : CommandAnswer command → Reply α)
    (hallows : g.Allows command) (hnext : ∀ reply, g.next command reply = g) :
    Keeps (do answered (reads (← ask command))) g fun _ g' => g' = g := by
  refine .seq (M := fun _ g' => g' = g) (ask_keeps command hallows hnext) ?_
  rintro reply _ rfl
  exact answered_keeps fun _ _ => rfl

theorem silent_seq {α β : Type} (command : Command φ) (reads : CommandAnswer command → Reply α)
    (hallows : g.Allows command) (hnext : ∀ reply, g.next command reply = g) {rest : α → Transaction φ β}
    {ok : β → Trace φ → Prop} (hrest : ∀ a, Keeps (rest a) g ok) :
    Keeps (do let a ← answered (reads (← ask command)); rest a) g ok := by
  refine .seq (M := fun _ g' => g' = g) (ask_keeps command hallows hnext) ?_
  rintro reply g rfl
  refine .seq (M := fun _ g' => g' = g) (answered_keeps fun _ _ => rfl) ?_
  rintro a _ rfl
  exact hrest a

theorem refuse_keeps {α : Type} {message : String} {ok : α → Trace φ → Prop} :
    Keeps (refuse message) g ok := .raise

theorem refuseIf_keeps {p : Prop} [Decidable p] {message : String} :
    Keeps (refuseIf p message) g fun _ g' => g' = g ∧ ¬ p := by
  unfold refuseIf
  split
  · exact .raise
  · rename_i hp
    exact .pure ⟨rfl, hp⟩

theorem wrapped_keeps {α : Type} {block : Transaction φ α} {message : String} {ok : α → Trace φ → Prop}
    (h : Keeps block g ok) : Keeps (wrapped block message) g ok :=
  .except h fun _ _ => refuse_keeps

theorem decided_keeps {α : Type} {result : Except PolicyError α} {message : String} :
    Keeps (decided result message) g fun a g' => g' = g ∧ result = .ok a := by
  cases result with
  | ok a => exact .pure ⟨rfl, rfl⟩
  | error e =>
    cases e with
    | policy _ => exact .raise
    | typeError => exact .raise

theorem revalidate_keeps : Keeps revalidate g fun _ g' => g' = { g with revalidated := true } := by
  refine .seq (M := fun reply g' => g' = g.next .revalidate reply)
    (ask_keeps .revalidate trivial fun _ => rfl) ?_
  rintro reply _ rfl
  exact answered_keeps fun _ hreply => by rw [hreply]; rfl

theorem brokerMonotonic_keeps : Keeps brokerMonotonic g fun time g' => g' = { g with time := some time } := by
  refine .seq (M := fun time g' => g' = { g with time := some time }) (wrapped_keeps ?_) ?_
  · refine .seq (M := fun reply g' => g' = g.next .clock reply) (ask_keeps .clock trivial fun _ => rfl) ?_
    rintro reply _ rfl
    exact answered_keeps fun _ hreply => by rw [hreply]; rfl
  · rintro time _ rfl
    refine .seq (decided_keeps.mono fun _ _ => id) fun _ g' h => ?_
    exact .pure h.1

/-- The mapping that was read is the expected one. -/
theorem stableMapping_keeps (expected : UserMappingSet) : Keeps (stableMapping expected) g fun _ g' =>
    g' = { g with mappings := g.mappings ++ [some expected], mapped := true } := by
  refine .seq (M := fun reply g' => g' = g.next .loadOptional reply)
    (ask_keeps .loadOptional trivial fun _ => rfl) ?_
  rintro reply _ rfl
  refine .seq (M := fun current g' => g' = { g with mappings := g.mappings ++ [current], mapped := true })
    (answered_keeps fun _ hreply => by rw [hreply]; rfl) ?_
  rintro current _ rfl
  refine refuseIf_keeps.mono fun _ g' h => ?_
  obtain ⟨rfl, hcurrent⟩ := h
  rw [not_not.mp hcurrent]

/-- The digest that was read is that of the mapping. -/
theorem keybag_keeps (selected : UserMapping) : Keeps (keybag selected) g fun digest g' =>
    digest = .str selected.keybagSha256 ∧
      g' = { g with digests := g.digests ++ [.str selected.keybagSha256], keybagRead := true } := by
  refine .seq (M := fun digest g' => g' = { g with digests := g.digests ++ [digest], keybagRead := true })
    (wrapped_keeps ?_) ?_
  · refine .seq (M := fun reply g' => g' = g.next (.keybagReader selected.keybagPath) reply)
      (ask_keeps (.keybagReader selected.keybagPath) trivial fun _ => rfl) ?_
    rintro reply _ rfl
    refine .seq (M := fun digest g' => g' = { g with digests := g.digests ++ [digest], keybagRead := true })
      (answered_keeps fun _ hreply => by rw [hreply]; rfl) ?_
    rintro digest _ rfl
    exact .seq decided_keeps fun _ g' h => .pure h.1
  · rintro digest _ rfl
    refine .seq refuseIf_keeps fun _ g' h => ?_
    obtain ⟨rfl, hsame⟩ := h
    obtain rfl := not_differ_str rfl hsame
    exact .pure ⟨rfl, rfl⟩

/-- A live collection; what was looked at before it is not fresh any more. -/
theorem liveCollect_keeps (selected : UserMapping) (accountGeneration keybagSha256 : Value φ) :
    Keeps (liveCollect selected accountGeneration keybagSha256) g fun live g' =>
      g' = { g with lives := g.lives ++ [live], revalidated := false, mapped := false, keybagRead := false } := by
  refine .seq (M := fun value g' => ∀ live, value = some live →
    g' = { g with lives := g.lives ++ [live], revalidated := false, mapped := false, keybagRead := false })
    (wrapped_keeps ?_) ?_
  · refine .seq (M := fun reply g' => g' = g.next (.liveCollect selected accountGeneration keybagSha256) reply)
      (ask_keeps (.liveCollect selected accountGeneration keybagSha256) trivial fun _ => rfl) ?_
    rintro reply _ rfl
    refine answered_keeps fun value hreply live hlive => ?_
    rw [hreply, hlive]
    rfl
  · intro value g' h
    cases value with
    | none => exact refuse_keeps
    | some live => exact .pure (h live rfl)

theorem authorizationCollect_keeps (authorization : BrokerAuthorizationSession φ)
    (arguments : CollectArguments φ) :
    Keeps (authorizationCollect authorization arguments) g fun _ g' => g' = g := by
  refine .seq (M := fun _ g' => g' = g) (wrapped_keeps ?_) ?_
  · refine .seq (M := fun reply g' => g' = g.next (.authorizationCollect arguments) reply)
      (ask_keeps (.authorizationCollect arguments) trivial fun _ => rfl) ?_
    rintro reply _ rfl
    exact answered_keeps fun _ _ => rfl
  · rintro value _ rfl
    cases value with
    | none => exact refuse_keeps
    | some value => exact .seq refuseIf_keeps fun _ g' h => .pure h.1

end Calls

/-! ## Simulation -/

namespace SelfService

variable {g : Trace φ} {target : Target φ} {runtimeGeneration : Value φ} {first : LiveEvidence φ}
  {decision : UserPolicyDecision φ}

/-- Everything that was read is what the target was resolved from. -/
structure Watched (target : Target φ) (g : Trace φ) : Prop where
  once : g.handed = 0
  mapping : ∀ read ∈ g.mappings, read = some target.mappingSet
  keybag : ∀ digest ∈ g.digests, digest = .str target.selected.keybagSha256

theorem Watched.load (h : Watched target g) :
    Watched target { g with mappings := g.mappings ++ [some target.mappingSet], mapped := true } := by
  refine ⟨h.once, fun read hread => ?_, h.keybag⟩
  rcases List.mem_append.mp hread with hread | hread
  · exact h.mapping read hread
  · exact List.mem_singleton.mp hread

theorem Watched.read (h : Watched target g) :
    Watched target { g with
      digests := g.digests ++ [.str target.selected.keybagSha256], keybagRead := true } := by
  refine ⟨h.once, h.mapping, fun digest hdigest => ?_⟩
  rcases List.mem_append.mp hdigest with hdigest | hdigest
  · exact h.keybag digest hdigest
  · exact List.mem_singleton.mp hdigest

/-- What was collected and what was looked at leaves the rest alone. -/
theorem Watched.congr (h : Watched target g) {g' : Trace φ} (hhanded : g'.handed = g.handed)
    (hmappings : g'.mappings = g.mappings) (hdigests : g'.digests = g.digests) : Watched target g' :=
  ⟨hhanded.trans h.once, hmappings ▸ h.mapping, hdigests ▸ h.keybag⟩

/-- The looks that stand before and behind a collection: at the caller, the mapping file and the keybag. -/
theorem looks_keeps {α : Type} {rest : Transaction φ α} {ok : α → Trace φ → Prop} (hwatched : Watched target g)
    (hrest : ∀ g', Watched target g' → g'.lives = g.lives → g'.revalidated = true → g'.mapped = true →
      g'.keybagRead = true → Keeps rest g' ok) :
    Keeps (do revalidate; stableMapping target.mappingSet; let _ ← keybag target.selected; rest) g ok := by
  refine .seq revalidate_keeps ?_
  rintro _ _ rfl
  refine .seq (stableMapping_keeps target.mappingSet) ?_
  rintro _ _ rfl
  refine .seq (keybag_keeps target.selected) ?_
  rintro _ _ ⟨-, rfl⟩
  exact hrest _ (Watched.read (Watched.load (hwatched.congr rfl rfl rfl))) rfl rfl rfl rfl

/-- A decision that is bound to the operation has not expired. -/
theorem unexpired_of_bound {set : UserMappingSet} {selected : UserMapping} {capability : PyStr}
    {linuxBootUuid time id : Value φ} {activation : Bool}
    (h : requireBoundAuthority decision set selected capability linuxBootUuid runtimeGeneration time activation =
      .ok id) : Unexpired decision (some time) ∧ IsCanonicalUuid runtimeGeneration := by
  obtain ⟨-, hruntime, now, rfl, -, -, -, binding, policy, hbinding, hvalid, -, hbound, -⟩ :=
    requireBoundAuthority_ok.mp h
  obtain ⟨expiry, hexpiry, -⟩ := hvalid.expires
  refine ⟨⟨binding, now, expiry, hbinding, rfl, hexpiry, ?_⟩, hruntime⟩
  have hlive := hbound.live
  rw [hexpiry] at hlive
  exact hlive

/-- **The handoff**: the consumer is called once, behind the last looks. -/
theorem handoff_keeps (hwatched : Watched target g) {second : LiveEvidence φ} (hlives : g.lives = [first, second])
    (hsecond : sameLive second first = true)
    (hstate : decision.state ∈ [PolicyState.authorized, .activationAuthorized])
    (hdecision : ∃ request caller operationGrant activationGrant,
      authorize target.mappingSet request caller first.1 first.2 operationGrant activationGrant = .ok decision) :
    Keeps (handoff target runtimeGeneration first decision) g fun result g' =>
      result.consumerInvoked = true ∧ g'.handed = 1 := by
  refine looks_keeps hwatched fun g1 hwatched hlives1 _ _ _ => ?_
  refine .seq (liveCollect_keeps _ _ _) ?_
  rintro third _ rfl
  refine .seq refuseIf_keeps ?_
  rintro _ _ ⟨rfl, hthird⟩
  refine looks_keeps (Watched.congr hwatched rfl rfl rfl)
    fun g2 hwatched hlives2 hrevalidated hmapped hkeybag => ?_
  refine .seq brokerMonotonic_keeps ?_
  rintro time _ rfl
  refine .seq decided_keeps ?_
  rintro id _ ⟨rfl, hbound⟩
  refine .seq (M := fun _ g' => g'.handed = 1) (ask_keeps _ ?_ fun _ => ?_) ?_
  · refine ⟨hwatched.once, ⟨second, third, ?_, hsecond, not_not.mp hthird⟩, hwatched.mapping, hwatched.keybag,
      hrevalidated, hmapped, hkeybag, ⟨hstate, hdecision⟩, (unexpired_of_bound hbound).1, ⟨rfl, rfl, rfl, rfl⟩⟩
    rw [hlives2, hlives1, hlives]
    rfl
  · exact congrArg (· + 1) hwatched.once
  · intro answer g3 hhanded
    cases answer with
    | raised => exact refuse_keeps
    | awaitable => exact refuse_keeps
    | returned value => exact .pure ⟨rfl, hhanded⟩

variable (service : SelfService φ)

theorem collectPolicy_keeps (action : PyStr) :
    Keeps (service.collectPolicy target runtimeGeneration action) g fun _ g' => g' = g :=
  authorizationCollect_keeps _ _

theorem collectActivation_keeps (readiness : ReadinessDecision) (operationEvidence : AuthorizationEvidence φ) :
    Keeps (service.collectActivation target runtimeGeneration readiness operationEvidence) g
      fun _ g' => g' = g := by
  unfold collectActivation
  split
  · exact .seq (collectPolicy_keeps service activateAction) fun _ _ h => .pure h
  · exact .pure rfl

/-- **The decision** is one of the policy, and the target was collected again. -/
theorem reachDecision_keeps (hwatched : Watched target g) (hlives : g.lives = [first])
    (readiness : ReadinessDecision) :
    Keeps (service.reachDecision target runtimeGeneration first readiness) g fun decision g' =>
      Watched target g' ∧ (∃ second, g'.lives = [first, second] ∧ sameLive second first = true) ∧
      ∃ request caller operationGrant activationGrant, authorize target.mappingSet request caller first.1
        first.2 operationGrant activationGrant = .ok decision := by
  refine .seq (collectPolicy_keeps service _) ?_
  rintro operationEvidence _ rfl
  refine .seq (collectActivation_keeps service readiness operationEvidence) ?_
  rintro activationEvidence _ rfl
  refine .seq revalidate_keeps ?_
  rintro _ _ rfl
  refine .seq (stableMapping_keeps target.mappingSet) ?_
  rintro _ _ rfl
  refine .seq refuseIf_keeps ?_
  rintro _ _ ⟨rfl, -⟩
  refine .seq (keybag_keeps target.selected) ?_
  rintro digest _ ⟨-, rfl⟩
  refine .seq refuseIf_keeps ?_
  rintro _ _ ⟨rfl, -⟩
  refine .seq (liveCollect_keeps _ _ _) ?_
  rintro second _ rfl
  refine .seq refuseIf_keeps ?_
  rintro _ _ ⟨rfl, hsecond⟩
  refine .seq brokerMonotonic_keeps ?_
  rintro time _ rfl
  refine decided_keeps.mono ?_
  rintro decision _ ⟨rfl, hdecision⟩
  refine ⟨?_, ⟨second, ?_, not_not.mp hsecond⟩, _, _, _, _, hdecision⟩
  · exact Watched.congr (Watched.read (Watched.load (hwatched.congr rfl rfl rfl))) rfl rfl rfl
  · exact congrArg (· ++ [second]) hlives

/-- What a result says of the consumer. -/
def Tells (result : BrokerResult φ) (g : Trace φ) : Prop :=
  result.consumerInvoked = true ∧ g.handed = 1 ∨ result.consumerInvoked = false ∧ g.handed = 0

theorem withLive_keeps (hwatched : Watched target g) (hlives : g.lives = []) :
    Keeps (service.withLive target) g Tells := by
  refine .seq (M := fun reply g' => g' = g.next .runtimeGeneration reply)
    (ask_keeps .runtimeGeneration trivial fun _ => rfl) ?_
  rintro reply _ rfl
  refine .seq (M := fun generation g' => g' = { g with generation := some generation })
    (answered_keeps fun _ hreply => by rw [hreply]; rfl) ?_
  rintro runtimeGeneration _ rfl
  refine .seq decided_keeps ?_
  rintro _ _ ⟨rfl, -⟩
  refine .seq (liveCollect_keeps _ _ _) ?_
  rintro first _ rfl
  split
  · exact refuse_keeps
  · refine .seq (reachDecision_keeps service (hwatched.congr ?_ ?_ ?_) (by rw [hlives]; rfl) _) ?_
    · rfl
    · rfl
    · rfl
    rintro decision g' ⟨hwatched, ⟨second, hlives, hsecond⟩, hdecision⟩
    split
    · rename_i hstate
      exact (handoff_keeps hwatched hlives hsecond hstate hdecision).mono fun _ _ => .inl
    · exact .pure (.inr ⟨rfl, hwatched.once⟩)

/-- **The target** is resolved, and then watched. -/
theorem withAuthorization_keeps (policy : OperationPolicy) (operationId linuxBootUuid : Value φ)
    (authorization : BrokerAuthorizationSession φ) :
    Keeps (service.withAuthorization policy operationId linuxBootUuid authorization) {} Tells := by
  unfold withAuthorization
  split
  · exact refuse_keeps
  rename_i caller hcaller
  refine silent_seq .openParent id trivial (fun _ => rfl) fun _ => ?_
  refine silent_seq .openLock id trivial (fun _ => rfl) fun _ => ?_
  refine .seq (M := fun reply g' => g' = Trace.next {} .loadOptional reply)
    (ask_keeps .loadOptional trivial fun _ => rfl) ?_
  rintro reply _ rfl
  refine .seq (M := fun set g' => g' = ({ mappings := [set], mapped := true } : Trace φ))
    (answered_keeps fun _ hreply => by rw [hreply]; rfl) ?_
  rintro set _ rfl
  cases set with
  | none => exact refuse_keeps
  | some mappingSet =>
    dsimp only
    split
    · exact refuse_keeps
    rename_i selected hselected
    refine .seq refuseIf_keeps ?_
    rintro _ _ ⟨rfl, -⟩
    refine .seq (keybag_keeps selected) ?_
    rintro digest _ ⟨-, rfl⟩
    refine silent_seq .liveFactory id trivial (fun _ => rfl) fun enterable => ?_
    refine .seq refuseIf_keeps ?_
    rintro _ _ ⟨rfl, -⟩
    refine silent_seq .enterLive id trivial (fun _ => rfl) fun _ => ?_
    refine .leaving (withLive_keeps service ⟨rfl, ?_, ?_⟩ rfl)
      fun _ => silent_keeps .exitLive id trivial fun _ => rfl
    · exact fun read hread => List.mem_singleton.mp hread
    · exact fun digest hdigest => List.mem_singleton.mp hdigest

theorem transaction_keeps (policy : OperationPolicy) (operationId linuxBootUuid : Value φ) :
    Keeps (service.transaction policy operationId linuxBootUuid) {} Tells := by
  refine .except ?_ fun e g' => ?_
  · refine .seq (M := fun _ g' => g' = {}) ?_ fun enterable g' hstart => ?_
    · unfold authorizationSource
      split
      · refine .seq refuseIf_keeps ?_
        rintro _ _ ⟨rfl, -⟩
        exact silent_keeps .authorizationFactory id trivial fun _ => rfl
      · refine .seq refuseIf_keeps ?_
        rintro _ _ ⟨rfl, -⟩
        exact .pure rfl
    subst hstart
    refine .seq refuseIf_keeps ?_
    rintro _ _ ⟨rfl, -⟩
    refine silent_seq .enterAuthorization id trivial (fun _ => rfl) fun authorization => ?_
    exact .leaving (withAuthorization_keeps service policy operationId linuxBootUuid authorization)
      fun _ => silent_keeps .exitAuthorization id trivial fun _ => rfl
  · cases e with
    | broker message => exact refuse_keeps
    | other => exact refuse_keeps

theorem run_keeps : Keeps service.runSelfService {} Tells := by
  refine .seq (wrapped_keeps (silent_keeps .requireRoot id trivial fun _ => rfl)) ?_
  rintro _ _ rfl
  refine .seq (M := fun _ g' => g' = {}) (Op.Meets.lift (fun _ _ => rfl) fun _ _ => trivial) ?_
  rintro policy _ rfl
  refine .seq (M := fun _ g' => g' = {}) (wrapped_keeps ?_) ?_
  · refine silent_seq .uuid4 id trivial (fun _ => rfl) fun operationId => ?_
    refine silent_seq .bootReader id trivial (fun _ => rfl) fun linuxBootUuid => ?_
    refine .seq decided_keeps ?_
    rintro _ _ ⟨rfl, -⟩
    exact .pure rfl
  · rintro ⟨operationId, linuxBootUuid⟩ _ rfl
    exact transaction_keeps service policy operationId linuxBootUuid

end SelfService

/-! ## The closure -/

/-- **A dispatch is allowed** behind a look at everything. -/
theorem DispatchAllowed.call_keeps (captured : DispatchAllowed φ) :
    Keeps captured.call {} fun allowed g => allowed = true →
      g.revalidated = true ∧ g.mappings = [some captured.mappingSet] ∧
        g.digests = [.str captured.selected.keybagSha256] ∧ g.generation = some captured.runtimeGeneration ∧
        Unexpired captured.decision g.time := by
  refine .except ?_ fun _ _ => .pure nofun
  refine .seq revalidate_keeps ?_
  rintro _ _ rfl
  refine .seq (stableMapping_keeps captured.mappingSet) ?_
  rintro _ _ rfl
  refine .seq (keybag_keeps captured.selected) ?_
  rintro _ g1 ⟨-, hread⟩
  refine .seq (M := fun reply g' => g' = g1.next .runtimeGeneration reply)
    (ask_keeps .runtimeGeneration trivial fun _ => rfl) ?_
  rintro reply _ rfl
  refine .seq (M := fun generation g' => g' = { g1 with generation := some generation })
    (answered_keeps fun _ hreply => by rw [hreply]; rfl) ?_
  rintro generation _ rfl
  split
  · exact .pure nofun
  · rename_i hsame
    refine .seq brokerMonotonic_keeps ?_
    rintro time _ rfl
    refine .seq decided_keeps ?_
    rintro id _ ⟨rfl, hbound⟩
    refine .pure fun _ => ?_
    obtain ⟨hunexpired, text, hruntime, -⟩ := SelfService.unexpired_of_bound hbound
    obtain rfl := not_differ_str hruntime hsame
    subst hread
    exact ⟨rfl, rfl, rfl, rfl, hunexpired⟩

/-! ## Results -/

/-- **The handoff is checked**: whatever is answered, in every run the consumer is called at most once, and
    then behind all checks; a result says whether it was; and its closure allows a dispatch only where
    everything still holds. -/
theorem SelfService.run_hands_over (service : SelfService φ)
    {log : List (Exchange (Command φ) (CommandAnswer (φ := φ)))}
    {rest : Proc (Command φ) (CommandAnswer (φ := φ)) (Outcome BrokerError (BrokerResult φ) × Unit)}
    (hrun : (service.runSelfService ()).Runs log rest) :
    (∀ before authority answer later, log = before ++ ⟨.consumer authority, answer⟩ :: later →
      Handed authority (contract.after {} before) ∧
        ∀ log' s, (authority.dispatchAllowed.call ()).Runs log' (.done (.returned true, s)) →
          StillHolds authority (contract.after {} log')) ∧
    (∀ result s, rest = .done (.returned result, s) →
      result.consumerInvoked = true ∧ (contract.after {} log).handed = 1 ∨
        result.consumerInvoked = false ∧ (contract.after {} log).handed = 0) := by
  have hobeyed : ∀ (g : Trace φ) (log : List (Exchange (Command φ) (CommandAnswer (φ := φ)))),
      contract.Obeyed g log := by
    intro g log
    induction log generalizing g with
    | nil => trivial
    | cons exchange log ih => exact ⟨trivial, ih _⟩
  refine ⟨fun before authority answer later hlog => ?_, fun result s hrest => ?_⟩
  · have hhanded : Handed authority (contract.after {} before) :=
      Proc.Meets.asks hrun (run_keeps service) (hobeyed _ _) before _ later hlog
    refine ⟨hhanded, fun log' s hdispatch => ?_⟩
    obtain ⟨hcaller, hmapping, hkeybag, hgeneration, hunexpired⟩ :=
      Proc.Meets.runs hdispatch (DispatchAllowed.call_keeps authority.dispatchAllowed) (hobeyed _ _) rfl
    obtain ⟨hset, hselected, hdecision, hruntime⟩ := hhanded.captures
    exact ⟨hcaller, hset ▸ hmapping, hselected ▸ hkeybag, hruntime ▸ hgeneration, hdecision ▸ hunexpired⟩
  · subst hrest
    exact Proc.Meets.runs hrun (run_keeps service) (hobeyed _ _)

/-! ## A run that hands over -/

/-- The block may return this, … -/
def MayReturn {α : Type} (block : Transaction φ α) (a : α) : Prop :=
  ∃ log, (block ()).Runs log (.done (.returned a, ()))

/-- … and it may call the consumer with this authority. -/
def MayHand {α : Type} (block : Transaction φ α) (authority : BrokerAuthority φ) : Prop :=
  ∃ before answer rest, (block ()).Runs (before ++ [⟨.consumer authority, answer⟩]) rest

section May

variable {α β : Type} {p : Transaction φ α} {f : α → Transaction φ β} {a : α} {b : β}
  {authority : BrokerAuthority φ}

theorem MayReturn.seq (h : MayReturn p a) (hf : MayReturn (f a) b) : MayReturn (p >>= f) b := by
  obtain ⟨log, hrun⟩ := h
  obtain ⟨log', hrest⟩ := hf
  exact ⟨log ++ log', Op.runs_bind hrun hrest rfl⟩

theorem MayReturn.pure : MayReturn (Pure.pure a : Transaction φ α) a := ⟨[], .here _⟩

theorem MayReturn.ask (command : Command φ) (reply : CommandAnswer command) : MayReturn (ask command) reply :=
  ⟨[⟨command, reply⟩], .ask (.here _)⟩

theorem MayReturn.refuseIf {p : Prop} [Decidable p] {message : String} (h : ¬ p) :
    MayReturn (refuseIf p message : Transaction φ Unit) () := by
  rw [Broker.refuseIf, if_neg h]
  exact .pure

theorem MayReturn.decided {result : Except PolicyError α} {message : String} (h : result = .ok a) :
    MayReturn (decided result message : Transaction φ α) a := by
  rw [h]
  exact .pure

theorem MayReturn.except {handler : BrokerError → Transaction φ α} (h : MayReturn p a) :
    MayReturn (p.except handler) a := by
  obtain ⟨log, hrun⟩ := h
  exact ⟨log ++ [], (hrun.bind _).trans (.here _)⟩

theorem MayHand.seq (h : MayReturn p a) (hf : MayHand (f a) authority) : MayHand (p >>= f) authority := by
  obtain ⟨log, hrun⟩ := h
  obtain ⟨before, answer, rest, hrest⟩ := hf
  exact ⟨log ++ before, answer, rest, Op.runs_bind hrun hrest (List.append_assoc _ _ _)⟩

theorem MayHand.first (h : MayHand p authority) : MayHand (p >>= f) authority := by
  obtain ⟨before, answer, rest, hrun⟩ := h
  exact ⟨before, answer, _, hrun.bind _⟩

theorem MayHand.leaving {last : Transaction φ Unit} (h : MayHand p authority) :
    MayHand (p.leaving last) authority := by
  obtain ⟨before, answer, rest, hrun⟩ := h
  exact ⟨before, answer, _, hrun.bind _⟩

theorem MayHand.except {handler : BrokerError → Transaction φ α} (h : MayHand p authority) :
    MayHand (p.except handler) authority := by
  obtain ⟨before, answer, rest, hrun⟩ := h
  exact ⟨before, answer, _, hrun.bind _⟩

end May

section Reached

open SelfService

variable {target : Target φ} {runtimeGeneration time operationId : Value φ} {first : LiveEvidence φ}
  {decision : UserPolicyDecision φ}

theorem mayReturn_stableMapping (expected : UserMappingSet) : MayReturn (stableMapping (φ := φ) expected) () :=
  .seq (.ask .loadOptional (.returned (some expected))) (.seq .pure (.refuseIf (not_not.mpr rfl)))

theorem mayReturn_keybag {selected : UserMapping} (h : isDigest selected.keybagSha256 = true) :
    MayReturn (keybag selected) (.str selected.keybagSha256 : Value φ) := by
  have hdigest : policyDigest (.str selected.keybagSha256 : Value φ) "keybag digest" =
      .ok selected.keybagSha256 := policyOf_ok.mpr (if_pos h)
  refine .seq (.except (.seq (.ask (.keybagReader selected.keybagPath) (.returned (.str selected.keybagSha256))) (.seq .pure
    (.seq (.decided hdigest) .pure)))) (.seq (.refuseIf ?_) .pure)
  rw [differ_self_str]
  exact Bool.false_ne_true

theorem mayReturn_live (live : LiveEvidence φ) : MayReturn (collectLive target) live :=
  .seq (.except (.seq (.ask (.liveCollect target.selected target.authorization.account.generation
    target.keybagSha256) (.returned (some live))) .pure)) .pure

theorem mayReturn_monotonic {now : Int} (h : 0 ≤ now ∧ now < 2 ^ 63) :
    MayReturn brokerMonotonic (.int now : Value φ) :=
  .seq (.except (.seq (.ask .clock (.returned (.int now))) .pure))
    (.seq (.decided (monotonic_ok.mpr ⟨rfl, h⟩)) .pure)

/-- A handoff that reaches the consumer. -/
theorem mayHand_handoff (hkeybag : isDigest target.selected.keybagSha256 = true)
    (hsame : sameLive first first = true) {now : Int} (hnow : 0 ≤ now ∧ now < 2 ^ 63)
    (hbound : requireBoundAuthority decision target.mappingSet target.selected target.policy.capability
      target.linuxBootUuid runtimeGeneration (.int now) (decide (decision.state = .activationAuthorized)) =
      .ok operationId) :
    ∃ authority, MayHand (handoff target runtimeGeneration first decision) authority := by
  have hrevalidate : MayReturn (revalidate : Transaction φ Unit) () :=
    .seq (.ask .revalidate (.returned ())) .pure
  refine ⟨_, .seq hrevalidate (.seq (mayReturn_stableMapping _) (.seq (mayReturn_keybag hkeybag)
    (.seq (mayReturn_live first) (.seq (.refuseIf (not_not.mpr hsame)) (.seq hrevalidate
    (.seq (mayReturn_stableMapping _) (.seq (mayReturn_keybag hkeybag) (.seq (mayReturn_monotonic hnow)
    (.seq (.decided hbound) (.first ⟨[], .raised, _, .ask (.here _)⟩))))))))))⟩

variable (service : SelfService φ)

theorem mayReturn_decision {readiness : ReadinessDecision} (evidence : AuthorizationEvidence φ)
    (hkeybag : isDigest target.selected.keybagSha256 = true)
    (hdigest : target.keybagSha256 = .str target.selected.keybagSha256)
    (haccount : target.authorization.account.generation = .str target.selected.linuxAccountGeneration)
    (hconsistent : consistent target.authorization evidence = true)
    (hactivation : service.wantsActivation readiness evidence = false) (hsame : sameLive first first = true)
    {now : Int} (hnow : 0 ≤ now ∧ now < 2 ^ 63)
    (hdecision : authorize target.mappingSet
      { operation := service.operation
        targetLinuxUid := target.caller.linuxUid
        operationId := target.operationId
        linuxBootUuid := target.linuxBootUuid
        runtimeGeneration
        observedMonotonicNs := .int now
        modificationAllowed := service.modificationAllowed } evidence.caller first.1 first.2
      (some evidence.grant) none = .ok decision) :
    MayReturn (service.reachDecision target runtimeGeneration first readiness) decision := by
  have hcollect : MayReturn (service.collectPolicy target runtimeGeneration target.policy.action) evidence :=
    .seq (.except (.seq (.ask (.authorizationCollect _) (.returned (some evidence))) .pure))
      (.seq (.refuseIf (not_not.mpr hconsistent)) .pure)
  have hactivates : MayReturn (service.collectActivation target runtimeGeneration readiness evidence) none := by
    rw [collectActivation, if_neg (by rw [hactivation]; exact Bool.false_ne_true)]
    exact .pure
  have hrevalidate : MayReturn (revalidate : Transaction φ Unit) () :=
    .seq (.ask .revalidate (.returned ())) .pure
  have hmapped : ¬ differ target.authorization.account.generation
      (.str target.selected.linuxAccountGeneration) = true := by
    rw [haccount, differ_self_str]
    exact Bool.false_ne_true
  have hstable : ¬ differ (.str target.selected.keybagSha256) target.keybagSha256 = true := by
    rw [hdigest, differ_self_str]
    exact Bool.false_ne_true
  exact .seq hcollect (.seq hactivates (.seq hrevalidate (.seq (mayReturn_stableMapping _)
    (.seq (.refuseIf hmapped) (.seq (mayReturn_keybag hkeybag) (.seq (.refuseIf hstable)
    (.seq (mayReturn_live first) (.seq (.refuseIf (not_not.mpr hsame)) (.seq (mayReturn_monotonic hnow)
    (.decided hdecision))))))))))

/-- A transaction that reaches its target may hand over. -/
theorem mayHand_run {policy : OperationPolicy} {bootUuid : Value φ} (operationText : PyStr)
    {authorization : BrokerAuthorizationSession φ} {caller : CallerEvidence φ} {mappingSet : UserMappingSet}
    {selected : UserMapping} {authority : BrokerAuthority φ} (harguments : service.arguments = .ok policy)
    (hboot : ∃ text, policyUuid bootUuid "Linux boot UUID" = .ok text)
    (hsource : service.authorizationManager = none ∧ service.connection = true)
    (hcaller : authorization.caller = some caller)
    (hselected : (do let uid ← unsigned caller.linuxUid "target Linux UID" 1
                     mappingSet.resolve uid policy.capability) = .ok selected)
    (haccount : authorization.account.generation = .str selected.linuxAccountGeneration)
    (hkeybag : isDigest selected.keybagSha256 = true)
    (hlive : MayHand (service.withLive
      { policy, operationId := .str operationText, linuxBootUuid := bootUuid, authorization, caller, mappingSet,
        selected, keybagSha256 := .str selected.keybagSha256 }) authority) :
    MayHand service.runSelfService authority := by
  have hmapped : ¬ differ authorization.account.generation (.str selected.linuxAccountGeneration) = true := by
    rw [haccount, differ_self_str]
    exact Bool.false_ne_true
  have htarget : MayHand (service.withAuthorization policy (.str operationText) bootUuid authorization)
      authority := by
    rw [withAuthorization, hcaller]
    refine .seq (.ask .openParent (.returned ())) (.seq .pure (.seq (.ask .openLock (.returned ())) (.seq .pure
      (.seq (.ask .loadOptional (.returned (some mappingSet))) (.seq .pure ?_)))))
    simp only [hselected]
    exact .seq (.refuseIf hmapped) (.seq (mayReturn_keybag hkeybag) (.seq (.ask .liveFactory (.returned true))
      (.seq .pure (.seq (.refuseIf (not_not.mpr rfl)) (.seq (.ask .enterLive (.returned ())) (.seq .pure
      hlive.leaving))))))
  have hopened : MayReturn service.authorizationSource true := by
    rw [authorizationSource, hsource.1]
    exact .seq (.refuseIf (not_not.mpr hsource.2)) (.seq (.ask .authorizationFactory (.returned true)) .pure)
  have hroot : MayReturn (wrapped (do answered (← ask .requireRoot)) "self-service broker requires root" :
      Transaction φ Unit) () := .except (.seq (.ask .requireRoot (.returned ())) .pure)
  obtain ⟨text, hboot⟩ := hboot
  have hidentities : MayReturn identities ((.str operationText, bootUuid) : Value φ × Value φ) :=
    .except (.seq (.ask .uuid4 (.returned operationText)) (.seq .pure (.seq (.ask .bootReader (.returned bootUuid))
      (.seq .pure (.seq (.decided hboot) .pure)))))
  refine .seq hroot (.seq ⟨[], Op.runs_lift harguments ()⟩ (.seq hidentities (.except ?_)))
  exact .seq hopened (.seq (.refuseIf (not_not.mpr rfl))
    (.seq (.ask .enterAuthorization (.returned authorization)) (.seq .pure htarget.leaving)))

end Reached

end Handoff

/-! ## A sample -/

/-- User 1000 wants to verify a finger. -/
def sampleService : SelfService Unit where
  operation := .str (py "verify")
  modificationAllowed := .bool false
  allowUserInteraction := .bool true
  collectActivationAuthority := .bool false
  grantLifetimeNs := .int 60000000000
  consumerCallable := true
  connection := true
  defaultFactory := true
  authorizationManager := none

def sampleSession : BrokerAuthorizationSession Unit where
  caller := some sampleCaller
  account := ⟨.int 1000, .str sampleMapping.linuxAccountGeneration, .str (py "local-files-v2"), .bool true, .bool true⟩
  session := ⟨.str (py "b"), .str (py "1"), .str (py "wayland"), .str (py "user"), .bool true, .int 1, .bool true⟩

/-- What is collected of the caller for this operation. -/
def sampleEvidence : AuthorizationEvidence Unit where
  caller := sampleCaller
  account := sampleSession.account
  session := sampleSession.session
  grant := sampleGrant sampleMappingSet.generation (py "org.t2linux.touchid.verify")

/-- The target of this user. -/
def sampleTarget : SelfService.Target Unit where
  policy := ⟨py "verify", py "org.t2linux.touchid.verify", false⟩
  operationId := sampleUuid "eeee"
  linuxBootUuid := sampleUuid "0001"
  authorization := sampleSession
  caller := sampleCaller
  mappingSet := sampleMappingSet
  selected := sampleMapping
  keybagSha256 := .str sampleMapping.keybagSha256

/-- Its sensor is ready, and the authority is handed over. -/
theorem sampleTarget_handed : ∃ authority, MayHand (sampleService.withLive sampleTarget) authority := by
  have hsample : (((assess sampleMapping (py "verify") samplePersistent (sampleAlias 0)).toOption.bind
      fun readiness => (sampleDecision sampleMappingSet).bind fun decision =>
      (requireBoundAuthority decision sampleMappingSet sampleMapping (py "verify") (sampleUuid "0001")
        (sampleUuid "1001") (.int 6) (decide (decision.state = .activationAuthorized))).toOption.map
      fun _ => (decision.state, sampleService.wantsActivation readiness sampleEvidence))) =
      some (.authorized, false) := by decide +kernel
  obtain ⟨readiness, hassess, hsample⟩ := Option.bind_eq_some_iff.mp hsample
  obtain ⟨decision, hdecision, hsample⟩ := Option.bind_eq_some_iff.mp hsample
  obtain ⟨operationId, hbound, hsample⟩ := Option.map_eq_some_iff.mp hsample
  obtain ⟨hstate, hactivation⟩ := Prod.mk.inj hsample
  have hruntime : policyUuid (sampleUuid "1001" : Value Unit) "runtime generation" = .ok _ :=
    ok_of_toOption (show _ = some (strOf (sampleUuid "1001" : Value Unit)) by decide +kernel)
  have hdecided : MayReturn (sampleService.reachDecision sampleTarget (sampleUuid "1001")
      (samplePersistent, sampleAlias 0) readiness) decision :=
    mayReturn_decision sampleService sampleEvidence (by decide +kernel) rfl rfl (by decide +kernel) hactivation
      (by decide +kernel) (show (0 : Int) ≤ 5 ∧ (5 : Int) < 2 ^ 63 by decide) (ok_of_toOption hdecision)
  have hhanded : ∃ authority, MayHand (SelfService.handoff sampleTarget (sampleUuid "1001")
      (samplePersistent, sampleAlias 0) decision) authority :=
    mayHand_handoff (by decide +kernel) (by decide +kernel) (by decide) (ok_of_toOption hbound)
  obtain ⟨authority, hhanded⟩ := hhanded
  have hchosen : decision.state ∈ [PolicyState.authorized, .activationAuthorized] := by
    rw [hstate]
    decide
  refine ⟨authority, .seq (.ask .runtimeGeneration (.returned (sampleUuid "1001"))) (.seq .pure
    (.seq (.decided hruntime) (.seq (mayReturn_live (samplePersistent, sampleAlias 0)) ?_)))⟩
  have hready : assess sampleTarget.selected sampleTarget.policy.capability samplePersistent (sampleAlias 0) =
      .ok readiness := ok_of_toOption hassess
  simp only [hready]
  refine .seq hdecided ?_
  rw [if_pos hchosen]
  exact hhanded

/-- **A run that hands over**, and what was checked in it. -/
theorem run_hands_over_sample : ∃ log authority answer rest,
    (sampleService.runSelfService ()).Runs (log ++ [⟨.consumer authority, answer⟩]) rest ∧
      Handed authority (contract.after {} log) := by
  obtain ⟨authority, hlive⟩ := sampleTarget_handed
  have hselected : ((do let uid ← unsigned sampleCaller.linuxUid "target Linux UID" 1
                        sampleMappingSet.resolve uid (py "verify")) : Except UserMappingError UserMapping) =
      .ok sampleMapping := ok_of_toOption (by decide +kernel)
  have hboot : policyUuid (sampleUuid "0001" : Value Unit) "Linux boot UUID" = .ok _ :=
    ok_of_toOption (show _ = some (strOf (sampleUuid "0001" : Value Unit)) by decide +kernel)
  have hhands : MayHand sampleService.runSelfService authority :=
    mayHand_run sampleService (strOf (sampleUuid "eeee" : Value Unit)) (ok_of_toOption rfl) ⟨_, hboot⟩ ⟨rfl, rfl⟩
      (show sampleSession.caller = some sampleCaller from rfl) hselected rfl (by decide +kernel) hlive
  obtain ⟨log, answer, rest, hrun⟩ := hhands
  have hchecked := sampleService.run_hands_over hrun
  exact ⟨log, authority, answer, rest, hrun, (hchecked.1 log authority answer [] rfl).1⟩

end T2TouchId.User.Broker
