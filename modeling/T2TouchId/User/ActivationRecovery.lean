/-
  The recovery of an activation whose outcome is unknown (`src/t2_user_activation_recovery.py`).

  Problem: the recovery looks at the alias once and derives a resolution from what it sees; the journal
  has rules of its own for which resolution goes with which observation.  Where the two disagree, the
  journal refuses the record, and the operation stays open for ever.

  1. **Program** — `mappingMatches`, `resolutionOf`, `recover`.  The journal is the list of its records; the
     observer is asked once.
  2. **The crux** — `recoveryObserved_accepts`: by the state that was assessed, the evidence is what the
     rule of its resolution asks for.
  3. **Results** — `recover_closes` and `recover_refused`: a recovery closes a journal whose outcome is
     unknown, and leaves any other alone.  `recover_agrees`: what the record says is what was observed.
-/
import T2TouchId.User.ActivationSteps

set_option linter.unusedSectionVars false

namespace T2TouchId.User.Activation

open T2TouchId.Python T2TouchId.Python.Json T2TouchId.Journal

section Recovery

variable {φ : Type} [JsonFloat φ]

/-! ## Program -/

/-- What `recover` raises. -/
inductive RecoveryError (φ : Type)
  /-- `UserActivationRecoveryError`. -/
  | recovery (message : PyStr)
  /-- What `read` or `append_checked` raised. -/
  | journal (failure : Failure φ)

inductive Resolution
  | ready
  | notReady
  | blocked
  | quarantine
  deriving DecidableEq

def Resolution.text : Resolution → String
  | ready => "ready"
  | notReady => "not-ready"
  | blocked => "blocked"
  | quarantine => "quarantine"

/-- `UserActivationRecoveryResult`, whose `mutation_performed` is always `False`. -/
structure UserActivationRecoveryResult where
  resolution : Resolution
  readinessState : ReadinessState
  deriving DecidableEq

/-- The capability of the baseline. -/
def capabilityOf (baseline : Value φ) : PyStr := strOf (baseline.get "capability")

/-- `_mapping_matches`. -/
def mappingMatches (baseline : Value φ) (mappingSet : UserMappingSet) (selected : UserMapping) :
    Except UserMappingError Bool :=
  if differ (.str mappingSet.generation) (baseline.get "mapping_generation")
      ∨ selected ∉ mappingSet.mappings
      ∨ differ (.int selected.linuxUid) (baseline.get "target_linux_uid")
      ∨ differ (.int selected.appleUid) (baseline.get "apple_uid")
      ∨ differ (.str selected.accountUuid) (baseline.get "account_uuid")
      ∨ differ (.str selected.bagUuid) (baseline.get "bag_uuid")
      ∨ differ (.str selected.keybagSha256) (baseline.get "keybag_sha256")
      ∨ differ (.int selected.specialBagAlias) (baseline.get "special_alias") then .ok false
  else selected.permits (capabilityOf baseline)

/-- Everything before the observation. -/
def requireCandidate (history : UserActivationHistory φ) (mappingSet : UserMappingSet)
    (selected : UserMapping) (runtimeGeneration : Value φ) : Except (RecoveryError φ) Unit := do
  raiseIf (history.phase ≠ .outcomeUnknown ∨ history.terminalFromPhase = none)
    (.recovery (py "activation journal is not an outcome-unknown recovery candidate"))
  match requireUuid runtimeGeneration "recovery runtime generation" with
  | .error (.journal message) => .error (.recovery message)
  | .error error => .error (.journal (.typed error))
  | .ok () => do
    raiseIf (¬ differ runtimeGeneration (history.baseline.get "runtime_generation"))
      (.recovery (py "activation recovery requires a fresh runtime generation"))
    match mappingMatches history.baseline mappingSet selected with
    | .error error => .error (.recovery (py error.message))
    | .ok mappingMatches =>
      raiseIf (¬ mappingMatches)
        (.recovery (py "protected mapping changed since activation intent"))

/-- The observation, and what it shows. -/
def observeReadiness (history : UserActivationHistory φ) (selected : UserMapping)
    (persistent : PersistentEvidence φ) (observation : Observation φ) :
    Except (RecoveryError φ) (AliasEvidence φ × ReadinessDecision) :=
  match observation with
  | .raised =>
    .error (.recovery (py "activation recovery could not obtain trustworthy read-back"))
  | .awaitable => .error (.recovery (py "activation recovery observation must be synchronous"))
  | .other => .error (.recovery (py "activation recovery observation has the wrong type"))
  | .returned observed =>
    match assess selected (capabilityOf history.baseline) persistent observed with
    | .ok decision => .ok (observed, decision)
    | .error _ =>
      .error (.recovery (py "activation recovery could not obtain trustworthy read-back"))

/-- The operation was stopped before it could bind. -/
def isEarly (history : UserActivationHistory φ) : Bool :=
  history.terminalFromPhase = some .loadIntent || history.terminalFromPhase = some .handleObserved

def resolutionOf (early : Bool) (state : ReadinessState) : Resolution :=
  if state = .aliasAbsent then .blocked
  else if state ∈ [ReadinessState.persistentBindingMismatch, .aliasBindingMismatch, .unknownLockState,
      .catacombCorrupted, .capabilityDenied] then .quarantine
  -- a load/handle-stage operation never dispatched bind
  else if early then .quarantine
  else if state = .ready then .ready
  else if state ∈ [ReadinessState.deviceLocked, .beforeFirstUnlock, .keybagLockout] then .notReady
  else .quarantine

/-- The evidence of `USER_ACTIVATION_RECOVERY_OBSERVED`. -/
def recoveryEvidence (selected : UserMapping) (observed : AliasEvidence φ) (resolution : Resolution)
    (state : ReadinessState) (runtimeGeneration : Value φ) : Value φ := members
  [("account_uuid_matches",
      .bool (observed.present.isTrue && !differ observed.accountUuid (.str selected.accountUuid))),
   ("alias_present", observed.present),
   ("bag_uuid_matches",
      .bool (observed.present.isTrue && !differ observed.bagUuid (.str selected.bagUuid))),
   ("match_ready", .bool (decide (resolution = .ready))),
   ("mutation_performed", .bool false),
   ("readiness_state", .str (py state.text)),
   ("resolution", .str (py resolution.text)),
   ("runtime_generation", runtimeGeneration)]

/-- `recover`, with the records that it leaves. -/
def recover (records : List (Value φ)) (mappingSet : UserMappingSet) (selected : UserMapping)
    (persistent : PersistentEvidence φ) (runtimeGeneration : Value φ) (observation : Observation φ) :
    Except (RecoveryError φ) UserActivationRecoveryResult × List (Value φ) :=
  match typedJournal.accept records with
  | .error failure => (.error (.journal failure), records)
  | .ok history =>
    match requireCandidate history mappingSet selected runtimeGeneration with
    | .error error => (.error error, records)
    | .ok () =>
      match observeReadiness history selected persistent observation with
      | .error error => (.error error, records)
      | .ok (observed, decision) =>
        let resolution := resolutionOf (isEarly history) decision.state
        match typedJournal.faultless (strOf history.operationId) records
            "USER_ACTIVATION_RECOVERY_OBSERVED"
            (recoveryEvidence selected observed resolution decision.state runtimeGeneration) with
        | (.error failure, records) => (.error (.journal failure), records)
        | (.ok _, records) => (.ok ⟨resolution, decision.state⟩, records)

/-! ## The journal takes what the recovery writes -/

/-- The phase of a resolution. -/
def Resolution.phase : Resolution → UserActivationPhase
  | ready => .recoveredReady
  | notReady => .recoveredNotReady
  | blocked => .recoveryBlocked
  | quarantine => .quarantined

variable {selected : UserMapping} {capability : PyStr} {persistent : PersistentEvidence φ}
  {observed : AliasEvidence φ} {decision : ReadinessDecision} {runtimeGeneration : Value φ}

/-- The alias of the mapping is there: its bag and its account are those of the mapping. -/
theorem matches_of_locked (hpresent : observed.present = .bool true)
    (halias : aliasMismatch selected observed = false) :
    (observed.present.isTrue && !differ observed.accountUuid (.str selected.accountUuid)) = true ∧
      (observed.present.isTrue && !differ observed.bagUuid (.str selected.bagUuid)) = true := by
  obtain ⟨hrest, haccount⟩ := Bool.or_eq_false_iff.mp halias
  obtain ⟨-, hbag⟩ := Bool.or_eq_false_iff.mp hrest
  rw [hpresent, haccount, hbag]
  exact ⟨rfl, rfl⟩

/-! A resolution, and the state that it stands for. -/

theorem resolutionOf_ready {early : Bool} {state : ReadinessState} :
    resolutionOf early state = .ready ↔ state = .ready ∧ early = false := by
  cases state
  all_goals cases early
  all_goals decide

theorem resolutionOf_notReady {early : Bool} {state : ReadinessState}
    (h : resolutionOf early state = .notReady) :
    state ∈ [ReadinessState.deviceLocked, .beforeFirstUnlock, .keybagLockout] := by
  revert h
  cases state
  all_goals cases early
  all_goals decide

theorem resolutionOf_blocked {early : Bool} {state : ReadinessState} :
    resolutionOf early state = .blocked ↔ state = .aliasAbsent := by
  cases state
  all_goals cases early
  all_goals decide

/-- The states of a resolution that is not ready. -/
theorem isOfLock_of_mem {state : ReadinessState}
    (h : state ∈ [ReadinessState.deviceLocked, .beforeFirstUnlock, .keybagLockout]) :
    state.isOfLock = true ∧
      isIn (.str (py state.text) : Value φ) ["device-locked", "before-first-unlock", "keybag-lockout"] =
        .ok true := by
  simp only [List.mem_cons, List.not_mem_nil, or_false] at h
  rcases h with rfl | rfl | rfl
  · exact ⟨rfl, by rfl⟩
  · exact ⟨rfl, by rfl⟩
  · exact ⟨rfl, by rfl⟩

/-- **The rule of each resolution** is met. -/
theorem resolve_accepts (early : Bool) (hassessed : Assessed selected capability persistent observed decision) :
    State.resolve (recoveryEvidence selected observed (resolutionOf early decision.state) decision.state
        runtimeGeneration) = .ok (resolutionOf early decision.state).phase := by
  simp only [State.resolve, State.aliasMatches, State.aliasGone, recoveryEvidence, get_members,
    List.lookup_cons, String.reduceBEq, Option.getD_some]
  generalize hresolution : resolutionOf early decision.state = resolution
  cases resolution with
  | ready =>
    obtain ⟨hstate, -⟩ := resolutionOf_ready.mp hresolution
    have hlock : decision.state.isOfLock = true := by
      rw [hstate]
      rfl
    obtain ⟨hpresent, halias⟩ := hassessed.of_isOfLock hlock
    obtain ⟨haccount, hbag⟩ := matches_of_locked hpresent halias
    rw [haccount, hbag, hpresent, hstate]
    rfl
  | notReady =>
    obtain ⟨hlock, hstate⟩ := isOfLock_of_mem (φ := φ) (resolutionOf_notReady hresolution)
    obtain ⟨hpresent, halias⟩ := hassessed.of_isOfLock hlock
    obtain ⟨haccount, hbag⟩ := matches_of_locked hpresent halias
    rw [haccount, hbag, hpresent, hstate]
    rfl
  | blocked =>
    have hstate := resolutionOf_blocked.mp hresolution
    rw [hassessed.of_absent hstate, hstate]
    rfl
  | quarantine =>
    -- any state has a text
    cases decision.state
    all_goals rfl

/-- **The record** that the recovery builds is one that the history takes. -/
theorem recoveryObserved_accepts {st : State φ} (early : Bool) (hphase : st.phase = .outcomeUnknown)
    (huuid : isUuid runtimeGeneration = true)
    (hfresh : differ runtimeGeneration (st.baseline.get "runtime_generation") = true)
    (hassess : assess selected capability persistent observed = .ok decision) :
    st.recoveryObserved (recoveryEvidence selected observed (resolutionOf early decision.state)
        decision.state runtimeGeneration) =
      .ok { st with phase := (resolutionOf early decision.state).phase } := by
  obtain ⟨hvalid, hassessed⟩ := assess_ok hassess
  obtain ⟨present, hpresent⟩ := present_of_valid hvalid
  have hgeneration : (recoveryEvidence selected observed (resolutionOf early decision.state)
      decision.state runtimeGeneration).get "runtime_generation" = runtimeGeneration := by
    simp only [recoveryEvidence, get_members, List.lookup_cons, String.reduceBEq, Option.getD_some]
  refine (passTest (not_not.mpr hphase)).trans ?_
  refine (passes (reject_neg (not_not.mpr (hasKeys_members rfl)))).trans ?_
  refine (passes (requireUuid_eq_ok.mpr (by rw [hgeneration]; exact huuid))).trans ?_
  refine (passTest ?valid).trans ((passes (resolve_accepts early hassessed)).trans rfl)
  rw [State.generationChanged, hgeneration, hfresh]
  simp only [recoveryEvidence, get_members, List.lookup_cons, String.reduceBEq, Option.getD_some,
    hpresent]
  simp [isBool, Journal.isFalse]

/-! ## Results -/

/-- An activation that was stopped while it loaded or looked at the handle had not bound. -/
theorem isEarly_of_stage {history : UserActivationHistory φ} (hstopped : history.toState.StoppedAt)
    (hstage : history.terminalStage = some (.str (py "load")) ∨
      history.terminalStage = some (.str (py "handle"))) : isEarly history = true := by
  obtain ⟨phase, names, name, hphase, hnames, hname, hitem⟩ := hstopped
  have hearly : name = "load" ∨ name = "handle" := by
    rcases hstage with h | h
    · exact .inl (py_inj.mp (Value.str.inj (Option.some.inj (hitem.symm.trans h))))
    · exact .inr (py_inj.mp (Value.str.inj (Option.some.inj (hitem.symm.trans h))))
  rw [isEarly, hphase]
  cases phase with
  | loadIntent => rfl
  | handleObserved => rfl
  | bindIntent | aliasObserved | unlockIntent =>
    cases hnames
    rcases hearly with rfl | rfl
    · exact absurd hname (by decide)
    · exact absurd hname (by decide)
  | _ => exact nomatch hnames

/-- An activation that was not stopped early was stopped at the bind or behind it. -/
theorem stoppedFrom {history : UserActivationHistory φ} (hstopped : history.toState.StoppedAt)
    (hlate : isEarly history = false) :
    history.terminalFromPhase = some .bindIntent ∨ history.terminalFromPhase = some .aliasObserved ∨
      history.terminalFromPhase = some .unlockIntent := by
  obtain ⟨phase, names, name, hphase, hnames, -, -⟩ := hstopped
  rw [isEarly, hphase] at hlate
  rw [hphase]
  cases phase with
  | loadIntent => exact nomatch hlate
  | handleObserved => exact nomatch hlate
  | bindIntent => exact .inl rfl
  | aliasObserved => exact .inr (.inl rfl)
  | unlockIntent => exact .inr (.inr rfl)
  | _ => exact nomatch hnames

/-- **A recovery closes** a journal whose outcome is unknown. -/
theorem recover_closes {records : List (Value φ)} {history : UserActivationHistory φ}
    {mappingSet : UserMappingSet} (h : validateHistory records = .ok history)
    (hphase : history.phase = .outcomeUnknown)
    (hmatches : mappingMatches history.baseline mappingSet selected = .ok true)
    (hassess : assess selected (capabilityOf history.baseline) persistent observed = .ok decision)
    (huuid : isUuid runtimeGeneration = true)
    (hfresh : differ runtimeGeneration (history.baseline.get "runtime_generation") = true) :
    ∃ record after,
      recover records mappingSet selected persistent runtimeGeneration (.returned observed) =
        (.ok ⟨resolutionOf (isEarly history) decision.state, decision.state⟩, records ++ [record]) ∧
      record.get "milestone" = .str (py "USER_ACTIVATION_RECOVERY_OBSERVED") ∧
      validateHistory (records ++ [record]) = .ok after ∧
      after.phase = (resolutionOf (isEarly history) decision.state).phase := by
  have hbound := run_bound (run_of_validateHistory h)
  obtain ⟨operationId, hoperation⟩ := str_of_uuid hbound.operation
  have happly : history.toState.apply (recoveryEvidence selected observed
      (resolutionOf (isEarly history) decision.state) decision.state runtimeGeneration)
      .recoveryObserved = .ok _ :=
    recoveryObserved_accepts (isEarly history) hphase huuid hfresh hassess
  have hnamed : milestones.find? (fun m => m.1 = "USER_ACTIVATION_RECOVERY_OBSERVED") =
      some ("USER_ACTIVATION_RECOVERY_OBSERVED", .recoveryObserved) := by rfl
  obtain ⟨after, hfaultless, hafter, hst⟩ := append_accepted h hoperation hnamed happly
  refine ⟨_, after, ?recovered, (TypedJournal.writtenRecord_fields _ _ _).2.1, hafter, congrArg State.phase hst⟩
  case recovered =>
    have hcandidate : requireCandidate history mappingSet selected runtimeGeneration = .ok () := by
      obtain ⟨phase, -, -, hfrom, -⟩ := hbound.stopped hphase
      refine raiseIf_ok.mpr ⟨?_, ?_⟩
      · rw [hphase, hfrom]
        exact not_or.mpr ⟨not_not.mpr rfl, nofun⟩
      · rw [requireUuid_eq_ok.mpr huuid]
        refine raiseIf_ok.mpr ⟨not_not.mpr hfresh, ?_⟩
        rw [hmatches]
        rfl
    have hobserve : observeReadiness history selected persistent (.returned observed) =
        .ok (observed, decision) := by
      rw [observeReadiness, hassess]
    rw [recover, typedJournal.accept_ok.mpr h]
    simp only [hcandidate, hobserve, hoperation, strOf, hfaultless]

theorem Resolution.phase_mem (resolution : Resolution) : resolution.phase ∈ State.recoveryPhases := by
  cases resolution
  all_goals decide

/-- **Any other journal** is refused and left alone. -/
theorem recover_refused {records : List (Value φ)} {history : UserActivationHistory φ}
    {mappingSet : UserMappingSet} {observation : Observation φ} (h : validateHistory records = .ok history)
    (hphase : history.phase ≠ .outcomeUnknown) :
    recover records mappingSet selected persistent runtimeGeneration observation =
      (.error (.recovery (py "activation journal is not an outcome-unknown recovery candidate")),
        records) := by
  have hcandidate : requireCandidate history mappingSet selected runtimeGeneration =
      .error (.recovery (py "activation journal is not an outcome-unknown recovery candidate")) := by
    rw [requireCandidate, raiseIf, if_pos (.inl hphase)]
    rfl
  rw [recover, typedJournal.accept_ok.mpr h]
  simp only [hcandidate]

/-- **The recovery and the journal agree.**  The record of a recovery is accepted; the journal says that the
    user is ready only where this was observed and the activation was stopped at the bind or behind it; and
    an alias that is there after an early stop is quarantined. -/
theorem recover_agrees {records : List (Value φ)} {history : UserActivationHistory φ}
    {mappingSet : UserMappingSet} (h : validateHistory records = .ok history)
    (hphase : history.phase = .outcomeUnknown)
    (hmatches : mappingMatches history.baseline mappingSet selected = .ok true)
    (hassess : assess selected (capabilityOf history.baseline) persistent observed = .ok decision)
    (huuid : isUuid runtimeGeneration = true)
    (hfresh : differ runtimeGeneration (history.baseline.get "runtime_generation") = true) :
    ∃ record after,
      recover records mappingSet selected persistent runtimeGeneration (.returned observed) =
        (.ok ⟨resolutionOf (isEarly history) decision.state, decision.state⟩, records ++ [record]) ∧
      record.get "milestone" = .str (py "USER_ACTIVATION_RECOVERY_OBSERVED") ∧
      validateHistory (records ++ [record]) = .ok after ∧
      after.phase ∈ State.recoveryPhases ∧
      (after.phase = .recoveredReady → decision.state = .ready ∧
        (history.terminalFromPhase = some .bindIntent ∨ history.terminalFromPhase = some .aliasObserved ∨
          history.terminalFromPhase = some .unlockIntent)) ∧
      (observed.present = .bool true →
        (isEarly history = true ∨ history.terminalStage = some (.str (py "load")) ∨
          history.terminalStage = some (.str (py "handle"))) →
        after.phase = .quarantined) := by
  have hstopped := (run_bound (run_of_validateHistory h)).stopped hphase
  obtain ⟨record, after, hrecover, hmilestone, hafter, hreached⟩ :=
    recover_closes h hphase hmatches hassess huuid hfresh
  refine ⟨record, after, hrecover, hmilestone, hafter, hreached ▸ Resolution.phase_mem _, ?ready, ?early⟩
  case ready =>
    intro hready
    have hresolution : resolutionOf (isEarly history) decision.state = .ready := by
      rw [hreached] at hready
      revert hready
      cases resolutionOf (isEarly history) decision.state
      all_goals decide
    obtain ⟨hstate, hlate⟩ := resolutionOf_ready.mp hresolution
    exact ⟨hstate, stoppedFrom hstopped hlate⟩
  case early =>
    intro hpresent hstage
    have hearly : isEarly history = true := hstage.elim id (isEarly_of_stage hstopped)
    have hthere : decision.state ≠ .aliasAbsent := by
      intro habsent
      have hgone := (assess_ok hassess).2.of_absent habsent
      rw [hpresent] at hgone
      exact nomatch hgone
    rw [hreached, hearly]
    revert hthere
    cases decision.state
    all_goals decide

end Recovery

/-! ## Samples -/

/-- The baseline of an activation of an absent alias. -/
def sampleActivation : Value Unit := object
  [("account_uuid", .str sampleMapping.accountUuid), ("alias_preexisting", .bool false),
   ("apple_uid", .int 501), ("bag_uuid", .str sampleMapping.bagUuid), ("capability", .str (py "verify")),
   ("initial_state", .str (py "alias-absent")), ("keybag_sha256", .str sampleMapping.keybagSha256),
   ("linux_boot_uuid", sampleUuid "0001"), ("mapping_generation", .str sampleMappingSet.generation),
   ("runtime_generation", sampleUuid "1001"), ("special_alias", .int (-501)),
   ("target_linux_uid", .int 1000)]

/-- An activation that meant to load the keybag. -/
def loadingActivation : List (Entry Unit) :=
  [⟨py "USER_ACTIVATION_BASELINE", object
      [("baseline", sampleActivation), ("operation_kind", .str (py "user-activation"))]⟩,
   ⟨py "USER_KEYBAG_LOAD_INTENT", object
      [("keybag_sha256", .str sampleMapping.keybagSha256), ("mutation_possible", .bool true),
       ("runtime_generation", sampleUuid "1001")]⟩]

/-- One that bound the alias, and could not read it back. -/
def unreadActivation : List (Entry Unit) :=
  loadingActivation ++
  [⟨py "USER_KEYBAG_HANDLE_OBSERVED", object
      [("bag_uuid_matches", .bool true), ("handle", .int 7), ("runtime_generation", sampleUuid "1001")]⟩,
   ⟨py "USER_ALIAS_BIND_INTENT", object
      [("handle", .int 7), ("mutation_possible", .bool true), ("runtime_generation", sampleUuid "1001"),
       ("special_alias", .int (-501))]⟩,
   ⟨py "USER_ACTIVATION_OUTCOME_UNKNOWN", object
      [("mutation_possible", .bool true), ("reason", .str (py "alias-observation-failed")),
       ("runtime_generation", sampleUuid "1001"), ("stage", .str (py "readback"))]⟩]

/-- The alias turns out to be ready. -/
theorem recover_agrees_ready : ∃ record after,
    recover (written sampleOperation unreadActivation) sampleMappingSet sampleMapping samplePersistent
        (sampleUuid "1002") (.returned (sampleAlias 0)) =
      (.ok ⟨.ready, .ready⟩, written sampleOperation unreadActivation ++ [record]) ∧
    validateHistory (written sampleOperation unreadActivation ++ [record]) = .ok after := by
  obtain ⟨st, hrun, hst⟩ := exists_of_map
    (b := (UserActivationPhase.outcomeUnknown, some UserActivationPhase.bindIntent, some true,
      some ReadinessState.ready, true))
    (show ((run (written sampleOperation unreadActivation)).map fun st => (st.phase,
        st.terminalFromPhase, (mappingMatches st.baseline sampleMappingSet sampleMapping).toOption,
        ((assess sampleMapping (capabilityOf st.baseline) samplePersistent (sampleAlias 0)).map
          ReadinessDecision.state).toOption,
        differ (sampleUuid "1002") (st.baseline.get "runtime_generation"))).toOption = _ by
      decide +kernel)
  simp only [Prod.mk.injEq] at hst
  obtain ⟨hphase, hfrom, hmatches, hassess, hfresh⟩ := hst
  obtain ⟨decision, hassess, hstate⟩ := exists_of_map hassess
  obtain ⟨record, after, hrecover, -, hafter, -⟩ :=
    recover_agrees (validateHistory_ok.mpr ⟨st, hrun, rfl⟩) hphase (ok_of_toOption hmatches) hassess
      (by decide +kernel) hfresh
  refine ⟨record, after, ?_, hafter⟩
  rw [hrecover, isEarly, hfrom, hstate]
  rfl

end T2TouchId.User.Activation
