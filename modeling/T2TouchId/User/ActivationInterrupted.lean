/-
  Which interrupted activations can be recovered?

  Problem: an activation can die at any call, and the storage can fail at any append, also at the append of
  the record that says that it stopped.  The recovery wants that record.

  1. **Data** — `Left`: what is in the journal behind some exchanges, where the storage may fail.
  2. **The crux** — `Sound`: whatever fails, the journal is one that `validate_history` accepts, since
     `append_checked` tries each record before it writes.
  3. **Result** — `recover_closes_iff`: what an activation leaves can be recovered where its outcome is
     unknown; and where only a call fails, and not the storage, it says so or says that it stopped.
-/
import T2TouchId.User.ActivationRecovery
import T2TouchId.User.ActivationRefinement

set_option linter.unusedSectionVars false

namespace T2TouchId.User.Activation

open T2TouchId.Calls T2TouchId.Python T2TouchId.Python.Json T2TouchId.Journal

section Interrupted

variable {φ : Type} [JsonFloat φ]

/-! ## What is left -/

/-- The records behind some exchanges.  A call that raises has left its record or not; so has one that the
    process did not see the end of. -/
inductive Left (operationId : PyStr) : List (Value φ) →
    List (Exchange (Query φ (Command φ)) (Reply φ (UserActivationHistory φ) (CommandAnswer (φ := φ)))) →
    List (Value φ) → Prop
  | nil (records : List (Value φ)) : Left operationId records [] records
  | appended {milestone : String} {evidence : Value φ} {history : UserActivationHistory φ} {records log all}
      (taken : (typedJournal.faultless operationId records milestone evidence).1 = .ok history)
      (rest : Left operationId (typedJournal.faultless operationId records milestone evidence).2 log all) :
      Left operationId records (⟨.append milestone evidence, .ok history⟩ :: log) all
  | failed {milestone : String} {evidence : Value φ} {failure : Failure φ} {records kept log all}
      (kept_of : kept = records ∨ kept = (typedJournal.faultless operationId records milestone evidence).2)
      (rest : Left operationId kept log all) :
      Left operationId records (⟨.append milestone evidence, .error failure⟩ :: log) all
  | created {id : PyStr} {evidence : Value φ} {history : UserActivationHistory φ} {log all}
      (rest : Left operationId [firstRecord id evidence] log all) :
      Left operationId [] (⟨.call (.createJournal id evidence), .ok history⟩ :: log) all
  | uncreated {id : PyStr} {evidence : Value φ} {failure : Failure φ} {records kept log all}
      (kept_of : kept = records ∨ records = [] ∧ kept = [firstRecord id evidence])
      (rest : Left operationId kept log all) :
      Left operationId records (⟨.call (.createJournal id evidence), .error failure⟩ :: log) all
  | called {command : Command φ} {answer : CommandAnswer command} {records log all}
      (other : ∀ id evidence, command ≠ .createJournal id evidence)
      (rest : Left operationId records log all) :
      Left operationId records (⟨.call command, answer⟩ :: log) all

/-- An intent is in the journal. -/
def Intended (records : List (Value φ)) : Prop := ∃ mutation : Mutation, Recorded records mutation.intent

/-- At most the baseline is there, or the journal is one that is accepted. -/
def Sound (records : List (Value φ)) : Prop :=
  (∀ record ∈ records, record.get "milestone" = .str (py "USER_ACTIVATION_BASELINE")) ∨
    ∃ history, validateHistory records = .ok history

theorem sound_nil : Sound ([] : List (Value φ)) := .inl nofun

theorem sound_firstRecord (id : PyStr) (evidence : Value φ) : Sound [firstRecord id evidence] := by
  refine .inl fun record hrecord => ?_
  obtain rfl := List.mem_singleton.mp hrecord
  exact (TypedJournal.writtenRecord_fields _ _ _).2.1

/-- With an intent, the journal is accepted. -/
theorem Sound.accepted {records : List (Value φ)} (h : Sound records) (hintended : Intended records) :
    ∃ history, validateHistory records = .ok history := by
  refine h.resolve_left fun hbaseline => ?_
  obtain ⟨mutation, record, hrecord, hmilestone⟩ := hintended
  have hname := py_injective (Value.str.inj ((hbaseline record hrecord).symm.trans hmilestone))
  cases mutation
  all_goals exact absurd hname (by decide)

/-- **A record that was tried** is accepted where it is written. -/
theorem validateHistory_of_tests {records : List (Value φ)} {history : UserActivationHistory φ}
    (h : validateHistory records = .ok history) {operationId : PyStr} {milestone : String}
    {evidence : Value φ}
    (htests : typedJournal.tests records history operationId (py milestone) evidence = .ok ()) :
    ∃ after, validateHistory (records ++ [writtenRecord operationId records ⟨py milestone, evidence⟩]) =
      .ok after := by
  have hrun := run_of_validateHistory h
  have hrecords : records ≠ [] := by
    rintro rfl
    exact journalRun_nil _ hrun
  unfold TypedJournal.tests at htests
  split at htests
  · exact nomatch htests
  rename_i hsame
  rw [if_pos (show typedJournal.triesCandidate = true from rfl)] at htests
  obtain ⟨tried, haccept, -⟩ := bind_ok htests
  obtain ⟨-, hmilestone, hevidence, -⟩ :=
    TypedJournal.writtenRecord_fields operationId records ⟨py milestone, evidence⟩
  obtain ⟨-, hmilestone', hevidence'⟩ :=
    TypedJournal.candidate_fields operationId (py milestone) evidence
  -- the candidate has the milestone and the evidence of the record
  have htried := run_of_validateHistory (typedJournal.accept_ok.mp haccept)
  rw [run, journalRun_concat hrecords] at htried
  obtain ⟨st, hst, hstep⟩ := bind_ok htried
  obtain rfl := Except.ok.inj (hrun.symm.trans hst)
  obtain ⟨m, hm, happly⟩ := step_ok _ hstep
  rw [hmilestone'] at hm
  rw [hevidence'] at happly
  have hoperation : history.operationId = .str operationId :=
    eq_of_not_differ_str rfl (Bool.eq_false_iff.mpr hsame)
  obtain ⟨after, hafter, -⟩ := validateHistory_concat hrun
    ((TypedJournal.writtenRecord_fields _ _ _).1.trans hoperation.symm)
    ((congrArg milestoneOf hmilestone).trans hm) (by rw [hevidence]; exact happly)
  exact ⟨after, hafter⟩

/-- **One append** keeps the journal sound. -/
theorem Sound.faultless {records : List (Value φ)} (h : Sound records) (operationId : PyStr)
    (milestone : String) (evidence : Value φ) :
    Sound (typedJournal.faultless operationId records milestone evidence).2 := by
  unfold TypedJournal.faultless
  cases hcurrent : typedJournal.accept records with
  | error failure => exact h
  | ok current =>
    cases htests : typedJournal.tests records current operationId (py milestone) evidence with
    | error failure =>
      simp only [htests]
      exact h
    | ok _ =>
      simp only [htests]
      exact .inr (validateHistory_of_tests (typedJournal.accept_ok.mp hcurrent) htests)

/-- **Whatever fails**, the journal stays sound. -/
theorem Left.sound {operationId : PyStr} {records all : List (Value φ)} {log}
    (h : Left operationId records log all) : Sound records → Sound all := by
  induction h with
  | nil records => exact id
  | appended taken rest ih => exact fun hsound => ih (hsound.faultless _ _ _)
  | failed kept_of rest ih =>
    intro hsound
    rcases kept_of with rfl | rfl
    · exact ih hsound
    · exact ih (hsound.faultless _ _ _)
  | created rest ih => exact fun _ => ih (sound_firstRecord _ _)
  | uncreated kept_of rest ih =>
    intro hsound
    rcases kept_of with rfl | ⟨-, rfl⟩
    · exact ih hsound
    · exact ih (sound_firstRecord _ _)
  | called other rest ih => exact ih

/-! ## What can be recovered -/

/-- The recovery writes a record, and the journal is in a phase of recovery. -/
def Closes (recovered : Except (RecoveryError φ) UserActivationRecoveryResult × List (Value φ)) : Prop :=
  ∃ result after, recovered.1 = .ok result ∧ validateHistory recovered.2 = .ok after ∧
    after.phase ∈ State.recoveryPhases

/-- A recovery on a fresh generation, with the mapping as it was and evidence that is valid. -/
structure Candidate (history : UserActivationHistory φ) (mappingSet : UserMappingSet) (selected : UserMapping)
    (persistent : PersistentEvidence φ) (runtimeGeneration : Value φ) (observed : AliasEvidence φ) : Prop where
  mapping : mappingMatches history.baseline mappingSet selected = .ok true
  evidence : ∃ decision, assess selected (capabilityOf history.baseline) persistent observed = .ok decision
  isUuid : isUuid runtimeGeneration = true
  fresh : differ runtimeGeneration (history.baseline.get "runtime_generation") = true

/-- What a recovery refuses a journal with. -/
def notACandidate : RecoveryError φ :=
  .recovery (py "activation journal is not an outcome-unknown recovery candidate")

/-- **An interrupted activation can be recovered where its outcome is unknown**: whatever fails and wherever it
    dies, the journal with an intent is accepted; a recovery closes it exactly where its phase is that of an
    unknown outcome, and refuses it and leaves it alone otherwise.  Where the storage does not fail, an
    exception behind an intent leaves it there, or stopped. -/
theorem recover_closes_iff (op : UserActivation φ) (password : Password)
    {log : List (Exchange (Query φ (Command φ)) (Reply φ (UserActivationHistory φ) (CommandAnswer (φ := φ))))}
    {rest : Proc (Query φ (Command φ)) (Reply φ (UserActivationHistory φ) (CommandAnswer (φ := φ)))
      (Outcome (OperationError φ) UserActivationOperationResult × Password)}
    (hrun : (op.run password).Runs log rest) {records : List (Value φ)}
    (hleft : Left op.operationId [] log records) (hintended : Intended records) :
    ∃ history, validateHistory records = .ok history ∧
      (∀ mappingSet selected persistent runtimeGeneration observed,
        Candidate history mappingSet selected persistent runtimeGeneration observed →
        (Closes (recover records mappingSet selected persistent runtimeGeneration (.returned observed)) ↔
          history.phase = .outcomeUnknown) ∧
        (history.phase ≠ .outcomeUnknown →
          recover records mappingSet selected persistent runtimeGeneration (.returned observed) =
            (.error notACandidate, records))) ∧
      (∀ error s, rest = .done (.raised error, s) → (contract op.operationId).Obeyed {} log →
        records = ((contract op.operationId).after {} log).records →
        history.phase = .stopped ∨ history.phase = .outcomeUnknown) := by
  obtain ⟨history, hjournal⟩ := (hleft.sound sound_nil).accepted hintended
  refine ⟨history, hjournal, ?recovery, ?raised⟩
  case recovery =>
    intro mappingSet selected persistent runtimeGeneration observed hcandidate
    have hrefused : history.phase ≠ .outcomeUnknown →
        recover records mappingSet selected persistent runtimeGeneration (.returned observed) =
          (.error notACandidate, records) := recover_refused hjournal
    refine ⟨⟨?_, fun hphase => ?_⟩, hrefused⟩
    · rintro ⟨result, after, hresult, -, -⟩
      by_contra hphase
      rw [hrefused hphase] at hresult
      exact nomatch hresult
    · obtain ⟨decision, hassess⟩ := hcandidate.evidence
      obtain ⟨record, after, hrecover, -, hafter, hreached⟩ :=
        recover_closes hjournal hphase hcandidate.mapping hassess hcandidate.isUuid hcandidate.fresh
      rw [hrecover]
      exact ⟨_, after, rfl, hafter, hreached ▸ Resolution.phase_mem _⟩
  case raised =>
    intro error s hrest hobeyed hrecords
    subst hrest
    rw [hrecords] at hintended hjournal
    rcases Proc.Meets.runs hrun (UserActivation.run_meets op password) hobeyed with hunintended | hstopped
    · obtain ⟨mutation, hrecorded⟩ := hintended
      exact absurd hrecorded (hunintended mutation)
    · obtain ⟨history', hjournal', hphase⟩ := hstopped
      obtain rfl := Except.ok.inj (hjournal.symm.trans hjournal')
      exact hphase

/-! ## An activation that dies behind its first intent -/

namespace UserActivation

variable (op : UserActivation φ)

/-- The evidence of `USER_KEYBAG_LOAD_INTENT`. -/
def loadIntentEvidence : Value φ := members
  [("keybag_sha256", .str op.selected.keybagSha256), ("mutation_possible", .bool true),
   ("runtime_generation", op.runtimeGeneration)]

/-- What an activation asks up to this intent. -/
def loadingLog (authorityTime : Value φ) (before : AliasEvidence φ) (history history' : UserActivationHistory φ) :
    List (Exchange (Query φ (Command φ)) (Reply φ (UserActivationHistory φ) (CommandAnswer (φ := φ)))) :=
  [⟨.call .clock, .returned authorityTime⟩, ⟨.call (.observeAlias op.specialAlias), .returned before⟩,
   ⟨.call (.createJournal op.operationId (baselineEvidence (op.baseline .aliasAbsent before.present))),
      .ok history⟩,
   ⟨.append "USER_KEYBAG_LOAD_INTENT" op.loadIntentEvidence, .ok history'⟩]

variable {op}

theorem assessed_eq {observed : AliasEvidence φ} {decision : ReadinessDecision}
    (hassess : assess op.selected op.capability op.persistent observed = .ok decision) :
    op.assessed observed = pure decision := by
  rw [assessed, hassess]

theorem preflight_runs {before : AliasEvidence φ} {decision : ReadinessDecision}
    (hassess : assess op.selected op.capability op.persistent before = .ok decision) (password : Password) :
    (op.preflight password).Runs [⟨.call (.observeAlias op.specialAlias), .returned before⟩]
      (.done (.returned (before, decision), password)) := by
  have hobserve : (op.observe password).Runs [⟨.call (.observeAlias op.specialAlias), .returned before⟩]
      (.done (.returned before, password)) := .ask (.here _)
  have hbody : ((do
      let before ← op.observe
      let decision ← op.assessed before
      return (before, decision)) password).Runs
      [⟨.call (.observeAlias op.specialAlias), .returned before⟩]
      (.done (.returned (before, decision), password)) := by
    refine Op.runs_bind hobserve ?_ rfl
    rw [assessed_eq hassess]
    exact .here _
  exact (hbody.bind _).trans (.here _)

theorem create_runs {operationId : Value φ} {before : AliasEvidence φ} {decision : ReadinessDecision}
    (hassess : assess op.selected op.capability op.persistent before = .ok decision)
    (htests : op.createTests operationId decision (op.baseline decision.state before.present) = .ok ())
    (history : UserActivationHistory φ) (password : Password) :
    (op.create operationId before password).Runs
      [⟨.call (.createJournal (strOf operationId) (baselineEvidence (op.baseline decision.state before.present))),
        .ok history⟩]
      (.done (.returned (), password)) := by
  unfold create
  rw [assessed_eq hassess]
  refine Op.runs_bind (.here _) (Op.runs_bind (Op.runs_lift htests _) ?_ rfl) rfl
  exact .ask (.here _)

/-- **An activation up to its first intent.** -/
theorem run_loading {authorityTime operationId : Value φ} {before : AliasEvidence φ}
    {decision : ReadinessDecision} {bytes : Bytes} (hstring : isString op.runtimeGeneration = true)
    (hauthorize : op.authorize authorityTime = .ok operationId)
    (hsize : validSize (.bytearray bytes) = true)
    (hassess : assess op.selected op.capability op.persistent before = .ok decision)
    (habsent : decision.state = .aliasAbsent) (hauthorized : op.activationAuthorized = true)
    (htests : op.createTests operationId decision (op.baseline decision.state before.present) = .ok ())
    (history history' : UserActivationHistory φ) : ∃ rest,
    (op.run (.bytearray bytes)).Runs (op.loadingLog authorityTime before history history') rest := by
  have hclock : (Op.except (do answered (← Client.call .clock)) (fun _ =>
      Op.raise (.operation "authorization consumption time is unavailable")) (.bytearray bytes) :
      Proc (Query φ (Command φ)) _ _).Runs
      [⟨.call .clock, .returned authorityTime⟩] (.done (.returned authorityTime, .bytearray bytes)) :=
    .ask (.here _)
  have hprepare : (op.prepare (.bytearray bytes)).Runs
      [⟨.call .clock, .returned authorityTime⟩, ⟨.call (.observeAlias op.specialAlias), .returned before⟩,
       ⟨.call (.createJournal op.operationId (baselineEvidence (op.baseline .aliasAbsent before.present))),
          .ok history⟩]
      (.done (.returned (.inl (.aliasAbsent, bytes)), .bytearray bytes)) := by
    refine Op.runs_bind (Op.runs_lift (if_neg (not_not.mpr hstring)) _) ?_ rfl
    refine Op.runs_bind hclock ?_ rfl
    refine Op.runs_bind (Op.runs_lift hauthorize _) ?_ rfl
    refine Op.runs_bind (.here _) ?_ rfl
    refine Op.runs_bind (Op.runs_lift (if_neg (not_not.mpr hsize)) _) ?_ rfl
    refine Op.runs_bind (preflight_runs hassess _) ?_ rfl
    have hnotReady : ¬ decision.state = .ready := by rw [habsent]; decide
    show Proc.Runs ((ite _ _ _ : Method φ _) _) _ _
    rw [if_neg hnotReady, ← habsent, ← authorize_ok hauthorize]
    refine Op.runs_bind (Op.runs_lift (if_neg (not_not.mpr hauthorized)) _) ?_ rfl
    refine Op.runs_bind (.here _) ?_ rfl
    exact Op.runs_bind (create_runs hassess htests history _) (.here _) rfl
  have hload : ∃ rest, (op.load (.bytearray bytes)).Runs
      [⟨.append "USER_KEYBAG_LOAD_INTENT" op.loadIntentEvidence, .ok history'⟩] rest := ⟨_, .ask (.here _)⟩
  obtain ⟨rest, hload⟩ := hload
  have hbody : ∃ rest, (op.body (.bytearray bytes)).Runs (op.loadingLog authorityTime before history history')
      rest := ⟨_, Op.runs_bind hprepare (hload.bind _) rfl⟩
  obtain ⟨rest, hbody⟩ := hbody
  exact ⟨_, hbody.bind _⟩

/-- **It may die there**: the journal says that it meant to load. -/
theorem left_loading {authorityTime operationId : Value φ} {before : AliasEvidence φ}
    {decision : ReadinessDecision} {bytes : Bytes} (hstring : isString op.runtimeGeneration = true)
    (hauthorize : op.authorize authorityTime = .ok operationId)
    (hsize : validSize (.bytearray bytes) = true)
    (hassess : assess op.selected op.capability op.persistent before = .ok decision)
    (habsent : decision.state = .aliasAbsent) (hauthorized : op.activationAuthorized = true)
    (htests : op.createTests operationId decision (op.baseline decision.state before.present) = .ok ()) :
    ∃ log rest records history, (op.run (.bytearray bytes)).Runs log rest ∧
      Left op.operationId [] log records ∧ Intended records ∧ validateHistory records = .ok history ∧
      history.phase = .loadIntent ∧ history.baseline = op.baseline .aliasAbsent before.present := by
  obtain ⟨-, hmapped⟩ := raiseIf_ok.mp htests
  obtain ⟨_, hbaseline, huuid⟩ := bind_ok (mapError_ok.mp hmapped)
  obtain ⟨id, rfl⟩ := str_of_uuid (requireUuid_eq_ok.mp huuid)
  obtain rfl : id = op.operationId := authorize_ok hauthorize
  rw [habsent] at hbaseline
  obtain ⟨first, hfirst, hst⟩ := start_firstRecord hbaseline (requireUuid_eq_ok.mp huuid)
  obtain ⟨hruntime, -, hprovenance⟩ := validateBaseline_ok _ _ hbaseline
  obtain ⟨hgeneration, hkeybag, halias, hinitial⟩ := baseline_get op .aliasAbsent before.present
  rw [hgeneration] at hruntime
  rw [hinitial, text_absent] at hprovenance
  have hbound : op.BoundTo first.toState := hst ▸ ⟨hgeneration, hruntime, hkeybag, halias⟩
  -- the journal takes the intent
  have hnamed : milestones.find? (fun m => m.1 = "USER_KEYBAG_LOAD_INTENT") =
      some ("USER_KEYBAG_LOAD_INTENT", .loadIntent) := rfl
  obtain ⟨after, hfaultless, hafter, hloading⟩ := append_accepted hfirst (by rw [hst]) hnamed
    (loadIntent_accepts hbound (by rw [hst]) (by rw [hst]; exact hprovenance))
  obtain ⟨rest, hrun⟩ := run_loading hstring hauthorize hsize hassess habsent hauthorized htests first after
  refine ⟨_, rest, _, after, hrun, ?_, ?_, hafter, congrArg State.phase hloading, ?_⟩
  · refine .called nofun (.called nofun (.created (.appended (congrArg Prod.fst hfaultless) ?_)))
    rw [loadIntentEvidence, hfaultless]
    exact .nil _
  · exact ⟨.load, _, List.mem_append_right _ (List.mem_singleton.mpr rfl),
      (TypedJournal.writtenRecord_fields _ _ _).2.1⟩
  · exact (congrArg State.baseline hloading).trans (congrArg State.baseline hst)

end UserActivation

end Interrupted

/-! ## A sample -/

/-- The alias is not there. -/
def absentAlias : AliasEvidence Unit where
  present := .bool false
  specialAlias := .none
  bagUuid := .none
  lockState := .none
  accountUuid := .none

/-- The policy lets the sample user activate. -/
def sampleActivationDecision : Option (UserPolicyDecision Unit) :=
  (authorize sampleMappingSet sampleRequest sampleCaller samplePersistent absentAlias
    (some (sampleGrant sampleMappingSet.generation (py "org.t2linux.touchid.verify")))
    (some { sampleGrant sampleMappingSet.generation activateAction with
      authorizationId := sampleUuid "aaaa" })).toOption

/-- An activation of this user may die behind its first intent, and then everything is there for a
    recovery. -/
theorem sample_interrupted : ∃ (op : UserActivation Unit) (password : Password) (log : List _) (rest : _)
    (records : List (Value Unit)) (history : UserActivationHistory Unit),
    (op.run password).Runs log rest ∧ Left op.operationId [] log records ∧ Intended records ∧
      validateHistory records = .ok history ∧ history.phase = .loadIntent ∧
      Candidate history op.set op.selected op.persistent (sampleUuid "1002") absentAlias := by
  have hsample : (sampleActivationDecision.bind fun authorization =>
      ((sampleUserActivation authorization).authorize (.int 5)).toOption.bind fun operationId =>
      (assess sampleMapping (py "verify") samplePersistent absentAlias).toOption.bind fun decision =>
      ((sampleUserActivation authorization).createTests operationId decision
        ((sampleUserActivation authorization).baseline decision.state absentAlias.present)).toOption.map
        fun _ => (decision.state, (sampleUserActivation authorization).activationAuthorized)) =
      some (.aliasAbsent, true) := by decide +kernel
  obtain ⟨authorization, -, hsample⟩ := Option.bind_eq_some_iff.mp hsample
  obtain ⟨operationId, hauthorize, hsample⟩ := Option.bind_eq_some_iff.mp hsample
  obtain ⟨decision, hassess, hsample⟩ := Option.bind_eq_some_iff.mp hsample
  obtain ⟨_, htests, hsample⟩ := Option.map_eq_some_iff.mp hsample
  obtain ⟨habsent, hauthorized⟩ := Prod.mk.inj hsample
  have hsize : UserActivation.validSize (.bytearray [7, 7]) = true := rfl
  obtain ⟨log, rest, records, history, hrun, hleft, hintended, hjournal, hphase, hbaseline⟩ :=
    UserActivation.left_loading rfl (ok_of_toOption hauthorize) hsize (ok_of_toOption hassess) habsent
      hauthorized (ok_of_toOption htests)
  have hsame : history.baseline = sampleActivation := hbaseline
  refine ⟨sampleUserActivation authorization, _, log, rest, records, history, hrun, hleft, hintended, hjournal,
    hphase, ?_, ⟨decision, ?_⟩, by decide +kernel, ?_⟩
  · rw [hsame]
    exact ok_of_toOption (show (mappingMatches sampleActivation sampleMappingSet sampleMapping).toOption =
      some true by decide +kernel)
  · rw [hsame]
    exact ok_of_toOption hassess
  · rw [hsame]
    decide +kernel

/-- **Not every one can be recovered**: it died behind an intent, the recovery has all it needs, and refuses. -/
theorem recover_refuses_interrupted : ∃ (op : UserActivation Unit) (password : Password) (log : List _) (rest : _)
    (records : List (Value Unit)) (history : UserActivationHistory Unit),
    (op.run password).Runs log rest ∧ Left op.operationId [] log records ∧ Intended records ∧
      validateHistory records = .ok history ∧ history.phase = .loadIntent ∧
      Candidate history op.set op.selected op.persistent (sampleUuid "1002") absentAlias ∧
      recover records op.set op.selected op.persistent (sampleUuid "1002") (.returned absentAlias) =
        (.error notACandidate, records) := by
  obtain ⟨op, password, log, rest, records, history, hrun, hleft, hintended, hjournal, hphase, hcandidate⟩ :=
    sample_interrupted
  refine ⟨op, password, log, rest, records, history, hrun, hleft, hintended, hjournal, hphase, hcandidate, ?_⟩
  exact recover_refused hjournal (by rw [hphase]; decide)

/-- What is left of this activation cannot be recovered. -/
theorem recover_closes_iff_sample : ∃ (op : UserActivation Unit) (records : List (Value Unit)),
    Intended records ∧ ¬ Closes (recover records op.set op.selected op.persistent (sampleUuid "1002")
      (.returned absentAlias)) := by
  obtain ⟨op, password, log, rest, records, history, hrun, hleft, hintended, hjournal, hphase, hcandidate⟩ :=
    sample_interrupted
  obtain ⟨history', hjournal', hrecovery, -⟩ := recover_closes_iff op password hrun hleft hintended
  obtain rfl := Except.ok.inj (hjournal.symm.trans hjournal')
  refine ⟨op, records, hintended, fun hcloses => ?_⟩
  have hunknown := (hrecovery _ _ _ _ _ hcandidate).1.mp hcloses
  exact nomatch hphase.symm.trans hunknown

end T2TouchId.User.Activation
