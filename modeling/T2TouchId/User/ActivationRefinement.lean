/-
  Does an activation write ahead, and what its journal accepts?

  Problem: the operation has some fifteen exits behind its first intent.  Each one journals a stage and a
  reason, and `validate_history` takes a stage only in some phases; where it does not, the exit leaves the
  journal in the middle.

  1. **Specification** — the contract: no append is refused, and a command that changes the sensor is sent
     once, behind its intent.  `Stopped` and `ReadyAt`: the two ends.
  2. **The journal's side** — `loadIntent_accepts`, …: what each milestone does in its phase.
  3. **Simulation** — `Current`: the state of the machine is known exactly, and which commands were sent.
  4. **Result** — `run_writes_ahead`, for every run.
-/
import T2TouchId.User.ActivationOperation
import T2TouchId.User.Authority

set_option linter.unusedSectionVars false

namespace T2TouchId.User.Activation

open T2TouchId.Calls T2TouchId.Python T2TouchId.Python.Json T2TouchId.Journal

/-! ## Specification -/

/-- The commands that change the sensor. -/
inductive Mutation
  | load
  | bind
  | unlock
  deriving DecidableEq

/-- The milestone that stands before a command. -/
def Mutation.intent : Mutation → String
  | load => "USER_KEYBAG_LOAD_INTENT"
  | bind => "USER_ALIAS_BIND_INTENT"
  | unlock => "USER_ALIAS_UNLOCK_INTENT"

section Refinement

variable {φ : Type} [JsonFloat φ]

def Command.mutation : Command φ → Option Mutation
  | .loadKeybag _ => some .load
  | .bindAlias _ _ => some .bind
  | .unlockAlias _ _ => some .unlock
  | _ => none

/-- What an activation has done so far. -/
structure Trace (φ : Type) where
  records : List (Value φ) := []
  sent : List Mutation := []
  /-- The last alias that was observed. -/
  observed : Option (AliasEvidence φ) := none

/-- The milestone is in the journal. -/
def Recorded (records : List (Value φ)) (milestone : String) : Prop :=
  ∃ record ∈ records, record.get "milestone" = .str (py milestone)

/-- The first record of a journal. -/
def firstRecord (operationId : PyStr) (evidence : Value φ) : Value φ :=
  writtenRecord operationId [] ⟨py "USER_ACTIVATION_BASELINE", evidence⟩

/-- No append is refused, and a mutating command is sent once, behind its intent.  Appends are answered as
    the storage without faults does; the creation of the journal may also fail, where there is one of this
    name; and commands are answered in any way. -/
def contract (operationId : PyStr) :
    Contract (Query φ (Command φ)) (Reply φ (UserActivationHistory φ) (CommandAnswer (φ := φ))) (Trace φ) where
  allows g
    | .append milestone evidence =>
      ∃ history, (typedJournal.faultless operationId g.records milestone evidence).1 = .ok history
    | .call (.createJournal id evidence) =>
      id = operationId ∧ g.records = [] ∧
        ∃ history, validateHistory [firstRecord operationId evidence] = .ok history
    | .call command => ∀ mutation, command.mutation = some mutation →
      mutation ∉ g.sent ∧ Recorded g.records mutation.intent
  replies g
    | .append milestone evidence, reply =>
      reply = (typedJournal.faultless operationId g.records milestone evidence).1
    | .call (.createJournal _ evidence), reply =>
      ∀ history, reply = .ok history → validateHistory [firstRecord operationId evidence] = .ok history
    | .call _, _ => True
  next g
    | .append milestone evidence, _ =>
      { g with records := (typedJournal.faultless operationId g.records milestone evidence).2 }
    | .call (.createJournal _ evidence), .ok _ => { g with records := [firstRecord operationId evidence] }
    | .call (.observeAlias _), .returned observed => { g with observed := some observed }
    | .call command, _ => { g with sent := g.sent ++ command.mutation.toList }

/-- The journal ends in a stop, or in an unknown outcome. -/
def Stopped (g : Trace φ) : Prop :=
  ∃ history, validateHistory g.records = .ok history ∧
    (history.phase = .stopped ∨ history.phase = .outcomeUnknown)

/-- Nothing that changes the sensor is meant to be sent. -/
def Unintended (g : Trace φ) : Prop := ∀ mutation : Mutation, ¬ Recorded g.records mutation.intent

namespace UserActivation

variable (op : UserActivation φ)

/-- The journal ends in its phase of readiness, and so did the last observation. -/
def ReadyAt (g : Trace φ) : Prop :=
  (∃ history, validateHistory g.records = .ok history ∧ history.phase = .ready) ∧
    ∃ observed decision, g.observed = some observed ∧
      assess op.selected op.capability op.persistent observed = .ok decision ∧ decision.state = .ready

/-- What a result says: the target was ready before, or the activation made it so. -/
def Finished (result : UserActivationOperationResult) (g : Trace φ) : Prop :=
  result = ⟨"already-ready", false⟩ ∧ g.records = [] ∧ g.sent = [] ∨
    result = ⟨"ready", true⟩ ∧ op.ReadyAt g

/-- The operation of the decision. -/
def operationId : PyStr :=
  match op.authorization.binding with
  | some binding => strOf binding.operationId
  | none => []

/-! ## The journal's side -/

/-- The baseline is that of the operation. -/
structure BoundTo (st : State φ) : Prop where
  runtime : st.baseline.get "runtime_generation" = op.runtimeGeneration
  isUuid : isUuid op.runtimeGeneration = true
  keybag : st.baseline.get "keybag_sha256" = .str op.selected.keybagSha256
  specialAlias : st.baseline.get "special_alias" = .int op.specialAlias

variable {op} {st : State φ}

theorem BoundTo.sameGeneration (h : op.BoundTo st) :
    differ op.runtimeGeneration (st.baseline.get "runtime_generation") = false := by
  rw [h.runtime]
  exact differ_self_uuid h.isUuid

theorem BoundTo.sameAlias (h : op.BoundTo st) :
    differ (.int op.specialAlias) (st.baseline.get "special_alias") = false := by
  rw [h.specialAlias]
  exact differ_int.mpr rfl

/-- A status that was read, or none. -/
def Readback.Valid (readback : Readback φ) : Prop :=
  readback.raised = readback.status.isNone ∧
    ∀ status, readback.status = some status →
      isIntIn (-(2 ^ 31)) (2 ^ 32 - 1) (.int status : Value φ) = true

theorem boundedStatus_of {readback : Readback φ} (h : readback.Valid) (field : String) :
    boundedStatus (statusValue readback.status : Value φ) field = .ok () := by
  obtain ⟨-, hrange⟩ := h
  cases hstatus : readback.status with
  | none => rfl
  | some status => exact (if_neg Bool.false_ne_true).trans (reject_neg (not_not.mpr (hrange status hstatus)))

/-- What a command reported stands beside what was observed. -/
theorem raised_of {readback : Readback φ} (h : readback.Valid) :
    (!isBool (.bool readback.raised : Value φ) ||
      ((.bool readback.raised : Value φ).isTrue && !isNone (statusValue readback.status : Value φ))) = false := by
  rw [h.1]
  cases readback.status with
  | none => rfl
  | some status => rfl

theorem loadIntent_accepts (hbound : op.BoundTo st) (hphase : st.phase = .baseline)
    (habsent : st.aliasPreexisting = false) :
    st.loadIntent (members
      [("keybag_sha256", .str op.selected.keybagSha256), ("mutation_possible", .bool true),
       ("runtime_generation", op.runtimeGeneration)]) = .ok { st with phase := .loadIntent } := by
  refine (passTest (by simp [hphase, habsent])).trans ?_
  refine (passes (reject_neg (not_not.mpr (hasKeys_members rfl)))).trans ?_
  simp only [State.generationChanged, get_members, List.lookup_cons, String.reduceBEq, Option.getD_some,
    hbound.sameGeneration, hbound.keybag, differ_self_str]
  rfl

theorem boundedUint_of {field : String} {n minimum : Int} (hlow : minimum ≤ n) (hhigh : n ≤ 0xFFFFFFFF) :
    boundedUint (.int n : Value φ) field minimum = .ok n :=
  (passTest (by simp [isIntIn, hlow, hhigh])).trans rfl

theorem handleObserved_accepts (hbound : op.BoundTo st) (hphase : st.phase = .loadIntent) {handle : Int}
    (hlow : 1 ≤ handle) (hhigh : handle ≤ 0xFFFFFFFF) :
    st.handleObserved (members
      [("bag_uuid_matches", .bool true), ("handle", .int handle),
       ("runtime_generation", op.runtimeGeneration)]) =
      .ok { st with temporaryHandle := some handle, phase := .handleObserved } := by
  refine (passTest (not_not.mpr hphase)).trans ?_
  refine (passes (reject_neg (not_not.mpr (hasKeys_members rfl)))).trans ?_
  simp only [State.generationChanged, get_members, List.lookup_cons, String.reduceBEq, Option.getD_some,
    hbound.sameGeneration]
  exact (passes (boundedUint_of hlow hhigh)).trans rfl

theorem bindIntent_accepts (hbound : op.BoundTo st) (hphase : st.phase = .handleObserved) {handle : Int}
    (hhandle : st.temporaryHandle = some handle) :
    st.bindIntent (members
      [("handle", .int handle), ("mutation_possible", .bool true),
       ("runtime_generation", op.runtimeGeneration), ("special_alias", .int op.specialAlias)]) =
      .ok { st with phase := .bindIntent } := by
  have hsame : differ (.int handle) st.handleValue = false := by
    rw [State.handleValue, hhandle]
    exact differ_int.mpr rfl
  refine (passTest (not_not.mpr hphase)).trans ?_
  refine (passes (reject_neg (not_not.mpr (hasKeys_members rfl)))).trans ?_
  simp only [State.generationChanged, get_members, List.lookup_cons, String.reduceBEq, Option.getD_some,
    hbound.sameGeneration, hbound.sameAlias, hsame]
  rfl

theorem aliasObserved_accepts (hbound : op.BoundTo st) (hphase : st.phase = .bindIntent)
    {readback : Readback φ} (hreadback : readback.Valid) :
    st.aliasObserved (members
      [("account_uuid_matches", .bool true), ("bag_uuid_matches", .bool true),
       ("command_raised", .bool readback.raised), ("command_status", statusValue readback.status),
       ("runtime_generation", op.runtimeGeneration), ("special_alias", .int op.specialAlias)]) =
      .ok { st with phase := .aliasObserved } := by
  refine (passTest (not_not.mpr hphase)).trans ?_
  refine (passes (reject_neg (not_not.mpr (hasKeys_members rfl)))).trans ?_
  simp only [State.aliasUnreconciled, State.generationChanged, raisedWithStatus, get_members,
    List.lookup_cons, String.reduceBEq, Option.getD_some, hbound.sameGeneration, hbound.sameAlias]
  refine (passes (boundedStatus_of hreadback _)).trans ?_
  rw [raised_of hreadback]
  rfl

theorem unlockIntent_accepts (hbound : op.BoundTo st)
    (hphase : st.phase = .baseline ∧ st.aliasPreexisting = true ∨ st.phase = .aliasObserved) :
    st.unlockIntent op.unlockIntentEvidence = .ok { st with phase := .unlockIntent } := by
  refine (passTest ?_).trans ((passTest ?_).trans ?_)
  · rcases hphase with ⟨hphase, -⟩ | hphase
    · simp [hphase]
    · simp [hphase]
  · rcases hphase with ⟨-, hpreexisting⟩ | hphase
    · simp [hpreexisting]
    · simp [hphase]
  · refine (passes (reject_neg (not_not.mpr (hasKeys_members rfl)))).trans ?_
    simp only [unlockIntentEvidence, State.generationChanged, get_members, List.lookup_cons,
      String.reduceBEq, Option.getD_some, hbound.sameGeneration, hbound.sameAlias]
    rfl

theorem readyObserved_accepts (hbound : op.BoundTo st) {source : String}
    (hphase : st.phase = .aliasObserved ∨ st.phase = .unlockIntent) (hsource : st.readySource = source)
    {readback : Readback φ} (hreadback : readback.Valid) :
    st.readyObserved (op.readyEvidence source readback) = .ok { st with phase := .ready } := by
  subst hsource
  refine (passTest (by rcases hphase with hphase | hphase <;> simp [hphase])).trans ?_
  refine (passes (reject_neg (not_not.mpr (hasKeys_members rfl)))).trans ?_
  simp only [readyEvidence, State.aliasUnreconciled, State.generationChanged, raisedWithStatus, get_members,
    List.lookup_cons, String.reduceBEq, Option.getD_some, hbound.sameGeneration, hbound.sameAlias]
  refine (passes (boundedStatus_of hreadback _)).trans ?_
  rw [raised_of hreadback]
  refine (passTest ?_).trans rfl
  simp [Value.isStr, Value.isTrue]

/-- **A stop is taken** at the stages of the phase. -/
theorem terminal_accepts (hbound : op.BoundTo st) {names : List String} (hstages : State.stages st.phase = some names)
    {stage reason : String} (hstage : stage ∈ names) (hreason : reason ≠ "") (milestone : String)
    (phase : UserActivationPhase) : ∃ st', st'.phase = phase ∧
    st.terminal milestone phase (members
      [("mutation_possible", .bool true), ("reason", .str (py reason)),
       ("runtime_generation", op.runtimeGeneration), ("stage", .str (py stage))]) = .ok st' := by
  have hknown : isIn (.str (py stage) : Value φ) names = .ok true := by
    refine congrArg Except.ok (List.any_eq_true.mpr ⟨stage, hstage, ?_⟩)
    exact isStr_iff.mpr rfl
  have htext : isText (.str (py reason) : Value φ) = true := by
    cases hpy : py reason with
    | nil => exact absurd (py_injective (hpy.trans (show [] = py "" from rfl))) hreason
    | cons c rest => rfl
  refine ⟨{ st with
    terminalStage := some (.str (py stage)), terminalReason := some (.str (py reason)),
    terminalFromPhase := some st.phase, phase }, rfl, ?_⟩
  unfold State.terminal
  rw [hstages]
  refine (passes (reject_neg (not_not.mpr (hasKeys_members rfl)))).trans ?_
  simp only [State.generationChanged, get_members, List.lookup_cons, String.reduceBEq, Option.getD_some,
    hbound.sameGeneration]
  refine (passTest Bool.false_ne_true).trans ((passes hknown).trans ((passTest ?_).trans rfl))
  simp [htext, Value.isTrue]

/-! ## Simulation -/

variable (op) in
/-- The machine of the journal is in this state, and these commands were sent. -/
structure Current (st : State φ) (sent : List Mutation) (g : Trace φ) : Prop where
  journal : ∃ history, validateHistory g.records = .ok history ∧ history.toState = st
  operation : st.operationId = .str op.operationId
  bound : op.BoundTo st
  sent : g.sent = sent

variable (op) in
/-- A block that keeps to the contract and leaves the password alone. -/
def Keeps {α : Type} (block : Method φ α) (s : Password) (g : Trace φ) (ok : α → Trace φ → Prop)
    (err : Trace φ → Prop) : Prop :=
  Op.Meets (contract op.operationId) block s g (fun a s' g' => s' = s ∧ ok a g') fun _ s' g' => s' = s ∧ err g'

variable {s : Password} {g : Trace φ} {sent : List Mutation} {err : Trace φ → Prop}

theorem Keeps.pure {α : Type} {a : α} {ok : α → Trace φ → Prop} (h : ok a g) :
    op.Keeps (Pure.pure a) s g ok err := Op.Meets.pure ⟨rfl, h⟩

theorem Keeps.raise {α : Type} {e : OperationError φ} {ok : α → Trace φ → Prop} (h : err g) :
    op.Keeps (Op.raise e) s g ok err := Op.Meets.raise ⟨rfl, h⟩

theorem Keeps.lift {α : Type} {r : Except (OperationError φ) α} {ok : α → Trace φ → Prop}
    (hok : ∀ a, r = .ok a → ok a g) (herr : err g) : op.Keeps (Op.lift r) s g ok err :=
  Op.Meets.lift (fun a ha => ⟨rfl, hok a ha⟩) fun _ _ => ⟨rfl, herr⟩

theorem Keeps.seq {α β : Type} {p : Method φ α} {f : α → Method φ β} {M : α → Trace φ → Prop}
    {ok : β → Trace φ → Prop} (h : op.Keeps p s g M err) (hf : ∀ a g', M a g' → op.Keeps (f a) s g' ok err) :
    op.Keeps (p >>= f) s g ok err := by
  refine Op.Meets.seq h ?_
  rintro a _ g' ⟨rfl, hM⟩
  exact hf a g' hM

theorem Keeps.except {α : Type} {p : Method φ α} {handler : OperationError φ → Method φ α}
    {ok : α → Trace φ → Prop} {E : Trace φ → Prop} (h : op.Keeps p s g ok E)
    (hhandler : ∀ e g', E g' → op.Keeps (handler e) s g' ok err) : op.Keeps (p.except handler) s g ok err := by
  refine Op.Meets.except (Op.Meets.mono h (fun _ _ _ => id) ?_)
  rintro e _ g' ⟨rfl, hE⟩
  exact hhandler e g' hE

theorem Keeps.mono {α : Type} {p : Method φ α} {ok ok' : α → Trace φ → Prop} {err' : Trace φ → Prop}
    (h : op.Keeps p s g ok err) (hok : ∀ a g', ok a g' → ok' a g') (herr : ∀ g', err g' → err' g') :
    op.Keeps p s g ok' err' :=
  Op.Meets.mono h (fun a _ g' ha => ⟨ha.1, hok a g' ha.2⟩) fun _ _ g' he => ⟨he.1, herr g' he.2⟩

/-- What was observed is no part of the journal. -/
theorem Current.congr {g' : Trace φ} (h : op.Current st sent g) (hrecords : g'.records = g.records)
    (hsent : g'.sent = g.sent) : op.Current st sent g' :=
  ⟨hrecords ▸ h.journal, h.operation, h.bound, hsent.trans h.sent⟩

/-! ### Appending -/

/-- **A milestone that the machine takes** is appended. -/
theorem clientAppend_keeps (hcurrent : op.Current st sent g) {milestone : String} {evidence : Value φ}
    {m : Milestone} {st' : State φ}
    (hnamed : milestones.find? (fun m => m.1 = milestone) = some (milestone, m))
    (happly : st.apply evidence m = .ok st')
    {ok : Except (Failure φ) (UserActivationHistory φ) → Trace φ → Prop}
    (h : ∀ history g', op.Current st' sent g' → Recorded g'.records milestone → g'.observed = g.observed →
      ok (.ok history) g') :
    op.Keeps (Client.append milestone evidence) s g ok err := by
  obtain ⟨⟨history, hjournal, rfl⟩, hoperation, hbound, hsent⟩ := hcurrent
  obtain ⟨after, hfaultless, hafter, hst⟩ := append_accepted hjournal hoperation hnamed happly
  obtain ⟨hsame, hbaseline, -⟩ := history.toState.apply_kept evidence m st' happly
  have hbound' : op.BoundTo st' :=
    ⟨hbaseline ▸ hbound.runtime, hbound.isUuid, hbaseline ▸ hbound.keybag, hbaseline ▸ hbound.specialAlias⟩
  refine Client.append_meets ⟨after, congrArg Prod.fst hfaultless⟩ fun reply hreply => ⟨rfl, ?_⟩
  obtain rfl : reply = .ok after := hreply.trans (congrArg Prod.fst hfaultless)
  have hrecords : ((contract op.operationId).next g (.append milestone evidence) (.ok after)).records =
      g.records ++ [writtenRecord op.operationId g.records ⟨py milestone, evidence⟩] :=
    congrArg Prod.snd hfaultless
  refine h after _ ⟨⟨after, ?_, hst⟩, hsame.trans hoperation, hbound', hsent⟩ ?_ rfl
  · rw [hrecords]
    exact hafter
  · rw [hrecords]
    exact ⟨_, List.mem_append_right _ (List.mem_singleton.mpr rfl),
      (TypedJournal.writtenRecord_fields _ _ _).2.1⟩

theorem append_keeps (hcurrent : op.Current st sent g) {milestone : String} {evidence : Value φ}
    {m : Milestone} {st' : State φ}
    (hnamed : milestones.find? (fun m => m.1 = milestone) = some (milestone, m))
    (happly : st.apply evidence m = .ok st') :
    op.Keeps (append milestone evidence) s g (fun _ g' => op.Current st' sent g' ∧
      Recorded g'.records milestone ∧ g'.observed = g.observed) err := by
  refine .seq (M := fun reply g' => ∃ history, reply = .ok history ∧ op.Current st' sent g' ∧
    Recorded g'.records milestone ∧ g'.observed = g.observed)
    (clientAppend_keeps hcurrent hnamed happly fun history g' hcurrent' hrecorded hobserved =>
      ⟨history, rfl, hcurrent', hrecorded, hobserved⟩) ?_
  rintro _ g' ⟨history, rfl, h⟩
  exact .pure h

theorem appendAfterMutation_keeps (hcurrent : op.Current st sent g) {milestone stage : String}
    {evidence : Value φ} {m : Milestone} {st' : State φ}
    (hnamed : milestones.find? (fun m => m.1 = milestone) = some (milestone, m))
    (happly : st.apply evidence m = .ok st') :
    op.Keeps (op.appendAfterMutation milestone evidence stage) s g (fun _ g' => op.Current st' sent g' ∧
      Recorded g'.records milestone ∧ g'.observed = g.observed) err :=
  .except (E := fun _ => False) (append_keeps hcurrent hnamed happly) fun _ _ => False.elim

/-! ### Stopping -/

/-- **A stop** at a stage of the phase. -/
theorem terminal_keeps {α : Type} (hcurrent : op.Current st sent g) {names : List String}
    (hstages : State.stages st.phase = some names) {stage reason : String} (hstage : stage ∈ names)
    (hreason : reason ≠ "") (unknown : Bool) {ok : α → Trace φ → Prop} :
    op.Keeps (op.terminal stage reason unknown : Method φ α) s g ok Stopped := by
  refine .seq (M := fun _ => Stopped) ?_ fun _ _ hstopped => .raise hstopped
  cases unknown with
  | true =>
    obtain ⟨st', hphase, hterminal⟩ := terminal_accepts hcurrent.bound hstages hstage hreason
      "USER_ACTIVATION_OUTCOME_UNKNOWN" .outcomeUnknown
    refine clientAppend_keeps hcurrent (m := .outcomeUnknown) rfl hterminal fun _ g' hcurrent' _ _ => ?_
    obtain ⟨history, hjournal, rfl⟩ := hcurrent'.journal
    exact ⟨history, hjournal, .inr hphase⟩
  | false =>
    obtain ⟨st', hphase, hterminal⟩ := terminal_accepts hcurrent.bound hstages hstage hreason
      "USER_ACTIVATION_STOPPED" .stopped
    refine clientAppend_keeps hcurrent (m := .stopped) rfl hterminal fun _ g' hcurrent' _ _ => ?_
    obtain ⟨history, hjournal, rfl⟩ := hcurrent'.journal
    exact ⟨history, hjournal, .inl hphase⟩

/-- **A stop** where the condition holds. -/
theorem terminalIf_keeps (hcurrent : op.Current st sent g) {names : List String}
    (hstages : State.stages st.phase = some names) {p : Prop} [Decidable p] {stage reason : String}
    (hstage : stage ∈ names) (hreason : reason ≠ "") (unknown : Bool) :
    op.Keeps (op.terminalIf p stage reason unknown) s g (fun _ g' => g' = g ∧ ¬ p) Stopped := by
  unfold terminalIf
  split
  · exact terminal_keeps hcurrent hstages hstage hreason unknown
  · rename_i hp
    exact .pure ⟨rfl, hp⟩

/-- A block whose exceptions are a stop. -/
theorem orUnknown_keeps (st : State φ) {names : List String} {α : Type} {block : Method φ α}
    {stage reason : String} {ok : α → Trace φ → Prop} (hstages : State.stages st.phase = some names) (hstage : stage ∈ names)
    (hreason : reason ≠ "") (h : op.Keeps block s g ok fun g' => ∃ sent', op.Current st sent' g') :
    op.Keeps (op.orUnknown block stage reason) s g ok Stopped := by
  refine .except h ?_
  rintro _ g' ⟨sent', hcurrent⟩
  exact terminal_keeps hcurrent hstages hstage hreason true

/-! ### Calling -/

/-- A command that changes nothing, and whose exceptions are raised. -/
theorem answered_keeps (command : Command φ) {α : Type} (answer : CommandAnswer command → Answer α)
    {ok : α → Trace φ → Prop} (hallows : (contract op.operationId).allows g (.call command))
    (hok : ∀ reply a, ok a ((contract op.operationId).next g (.call command) reply))
    (herr : ∀ reply, err ((contract op.operationId).next g (.call command) reply)) :
    op.Keeps (call command >>= fun reply => answered (answer reply)) s g ok err := by
  refine .seq (M := fun _ g' => ∃ reply, g' = (contract op.operationId).next g (.call command) reply)
    (Client.call_meets hallows fun reply _ => ⟨rfl, reply, rfl⟩) ?_
  rintro answered _ ⟨reply, rfl⟩
  cases answer answered with
  | raised => exact .raise (herr reply)
  | returned a => exact .pure (hok reply a)

theorem call_keeps {command : Command φ} {ok : CommandAnswer command → Trace φ → Prop}
    (hallows : (contract op.operationId).allows g (.call command))
    (h : ∀ reply, (contract op.operationId).replies g (.call command) reply →
      ok reply ((contract op.operationId).next g (.call command) reply)) :
    op.Keeps (call command) s g ok err :=
  Client.call_meets hallows fun reply hreply => ⟨rfl, h reply hreply⟩

/-- **A command that changes the sensor** is counted, whatever it answers. -/
theorem mutate_keeps (hcurrent : op.Current st sent g) (command : Command φ) {mutation : Mutation}
    (hallows : (contract op.operationId).allows g (.call command))
    (hnext : ∀ reply, (contract op.operationId).next g (.call command) reply =
      { g with sent := g.sent ++ [mutation] }) :
    op.Keeps (call command) s g (fun _ g' => op.Current st (sent ++ [mutation]) g') err := by
  refine call_keeps hallows fun reply _ => ?_
  rw [hnext reply]
  exact ⟨hcurrent.journal, hcurrent.operation, hcurrent.bound, congrArg (· ++ [mutation]) hcurrent.sent⟩

/-- An observation leaves the journal alone. -/
theorem observe_keeps :
    op.Keeps op.observe s g
      (fun observed g' => g'.records = g.records ∧ g'.sent = g.sent ∧ g'.observed = some observed)
      fun g' => g'.records = g.records ∧ g'.sent = g.sent := by
  refine .seq (M := fun reply g' => g' =
      (contract op.operationId).next g (.call (.observeAlias op.specialAlias)) reply)
    (call_keeps (fun _ => nofun) fun reply _ => rfl) ?_
  rintro reply _ rfl
  have hsame : g.sent ++ [] = g.sent := List.append_nil _
  cases reply with
  | raised => exact .raise ⟨rfl, hsame⟩
  | awaitable => exact .raise ⟨rfl, hsame⟩
  | other => exact .raise ⟨rfl, hsame⟩
  | returned observed => exact .pure ⟨rfl, rfl, rfl⟩

theorem assessed_keeps (observed : AliasEvidence φ) :
    op.Keeps (op.assessed observed) s g (fun decision g' => g' = g ∧
      assess op.selected op.capability op.persistent observed = .ok decision) (fun g' => g' = g) := by
  unfold assessed
  cases hassess : assess op.selected op.capability op.persistent observed with
  | ok decision => exact .pure ⟨rfl, rfl⟩
  | error error => exact .raise rfl

theorem statusOf_ok {value : Value φ} {label : String} {status : Int}
    (h : statusOf value label = .ok status) :
    isIntIn (-(2 ^ 31)) (2 ^ 32 - 1) (.int status : Value φ) = true := by
  unfold statusOf at h
  split at h
  · rename_i hrange
    cases value with
    | int n =>
      cases h
      exact hrange
    | _ => exact nomatch hrange
  · exact nomatch h

/-- **A command and what is observed behind it**: whatever the command reports, the observation counts. -/
theorem commandAndReadback_keeps {command : Method φ (Answer (Value φ))} {sent' : List Mutation}
    (h : op.Keeps command s g (fun _ g' => op.Current st sent' g') fun _ => False) :
    op.Keeps (op.commandAndReadback command) s g (fun readback g' => op.Current st sent' g' ∧
      readback.Valid ∧ g'.observed = some readback.observed)
      (fun g' => ∃ sent', op.Current st sent' g') := by
  have hstatus : op.Keeps (Op.except (do
      let value ← answered (← command)
      let status ← Op.lift (statusOf value "activation command")
      return some status) fun _ => pure none) s g (fun status g' => op.Current st sent' g' ∧
        ∀ n, status = some n → isIntIn (-(2 ^ 31)) (2 ^ 32 - 1) (.int n : Value φ) = true)
      (fun g' => ∃ sent', op.Current st sent' g') := by
    refine .except (E := fun g' => op.Current st sent' g') ?_
      fun _ _ hcurrent => .pure ⟨hcurrent, fun _ h => by cases h⟩
    refine .seq (h.mono (fun _ _ => id) fun _ => False.elim) fun answer g1 hcurrent => ?_
    refine .seq (M := fun _ g' => op.Current st sent' g') ?_ fun value g2 hcurrent' => ?_
    · cases answer with
      | raised => exact .raise hcurrent
      | returned value => exact .pure hcurrent
    · refine .seq (M := fun n g' => op.Current st sent' g' ∧
        isIntIn (-(2 ^ 31)) (2 ^ 32 - 1) (.int n : Value φ) = true)
        (.lift (fun n hn => ⟨hcurrent', statusOf_ok hn⟩) hcurrent') fun n g3 hn => ?_
      exact .pure ⟨hn.1, fun m hm => Option.some.inj hm ▸ hn.2⟩
  refine .seq hstatus fun status g1 hread => ?_
  obtain ⟨hcurrent, hrange⟩ := hread
  refine .seq (observe_keeps.mono (fun _ _ => id) fun g2 hsame => ?_) fun observed g2 hobserved => ?_
  · exact ⟨sent', hcurrent.congr hsame.1 hsame.2⟩
  · obtain ⟨hrecords, hsent, hobserved⟩ := hobserved
    exact .pure ⟨hcurrent.congr hrecords hsent, ⟨rfl, hrange⟩, hobserved⟩

/-! ### Loading -/

theorem handleOf_ok {value : Value φ} {handle : Int} (h : handleOf value = .ok handle) :
    1 ≤ handle ∧ handle ≤ 0xFFFFFFFF := by
  unfold handleOf at h
  split at h
  · rename_i hrange
    cases value with
    | int n =>
      cases h
      obtain ⟨hlow, hhigh⟩ := Bool.and_eq_true_iff.mp hrange
      exact ⟨of_decide_eq_true hlow, of_decide_eq_true hhigh⟩
    | _ => exact nomatch hrange
  · exact nomatch h

/-- **The load**: once, behind its intent; and up to the intent of the bind. -/
theorem load_keeps (hcurrent : op.Current st [] g) (hphase : st.phase = .baseline)
    (habsent : st.aliasPreexisting = false) :
    op.Keeps op.load s g (fun _ g' => ∃ st', op.Current st' [.load] g' ∧ st'.phase = .bindIntent ∧
      Recorded g'.records Mutation.bind.intent) Stopped := by
  refine .seq (append_keeps hcurrent (m := .loadIntent) rfl
    (loadIntent_accepts hcurrent.bound hphase habsent)) fun _ g1 hloading => ?_
  obtain ⟨hloading, hintent, -⟩ := hloading
  have hstages : State.stages ({ st with phase := .loadIntent } : State φ).phase = some ["load", "handle"] :=
    rfl
  refine .seq (M := fun handle g' => op.Current { st with phase := .loadIntent } [.load] g' ∧
    1 ≤ handle ∧ handle ≤ 0xFFFFFFFF) ?_ fun handle g2 hhandle => ?_
  · -- the call of the load
    refine orUnknown_keeps { st with phase := .loadIntent } hstages (by decide) (by decide) ?_
    refine .seq (mutate_keeps hloading (.loadKeybag op.selected.keybagPath) ?_ fun _ => rfl)
      fun answer g' hcurrent' => ?_
    · rintro mutation ⟨⟩
      rw [hloading.sent]
      exact ⟨List.not_mem_nil, hintent⟩
    · refine .seq (M := fun _ g' => op.Current { st with phase := .loadIntent } [.load] g') ?_
        fun value g'' hcurrent'' => ?_
      · cases answer with
        | raised => exact .raise ⟨_, hcurrent'⟩
        | returned value => exact .pure hcurrent'
      · exact .lift (fun handle hhandle => ⟨hcurrent'', handleOf_ok hhandle⟩) ⟨_, hcurrent''⟩
  · obtain ⟨hloaded, hlow, hhigh⟩ := hhandle
    refine .seq (M := fun _ g' => op.Current { st with phase := .loadIntent } [.load] g') ?_
      fun uuid g3 hloaded => ?_
    · -- the bag of the handle
      refine orUnknown_keeps { st with phase := .loadIntent } hstages (by decide) (by decide) ?_
      have hasked : ∀ reply, op.Current { st with phase := .loadIntent } [.load]
          ((contract op.operationId).next g2 (.call (.bagUuid handle)) reply) :=
        fun reply => hloaded.congr rfl (List.append_nil _)
      exact answered_keeps (.bagUuid handle) id (fun _ => nofun) (fun reply _ => hasked reply)
        fun reply => ⟨_, hasked reply⟩
    · refine .seq (terminalIf_keeps hloaded hstages (by decide) (by decide) false) fun _ g4 hsame => ?_
      obtain ⟨rfl, -⟩ := hsame
      refine .seq (appendAfterMutation_keeps hloaded (m := .handleObserved) rfl
        (handleObserved_accepts hloaded.bound rfl hlow hhigh)) fun _ g5 hobserved => ?_
      obtain ⟨hobserved, -, -⟩ := hobserved
      refine .seq (appendAfterMutation_keeps hobserved (m := .bindIntent) rfl
        (bindIntent_accepts hobserved.bound rfl rfl)) fun _ g6 hbinding => ?_
      exact .pure ⟨_, hbinding.1, rfl, hbinding.2.1⟩

/-! ### Binding and unlocking -/

theorem text_ne (state : ReadinessState) : state.text ≠ "" := by cases state <;> decide

/-- The last observation and the journal say that the user is ready. -/
theorem Current.readyAt (h : op.Current st sent g) (hphase : st.phase = .ready)
    {observed : AliasEvidence φ} (hobserved : g.observed = some observed) {decision : ReadinessDecision}
    (hassess : assess op.selected op.capability op.persistent observed = .ok decision)
    (hready : decision.state = .ready) : op.ReadyAt g := by
  obtain ⟨history, hjournal, rfl⟩ := h.journal
  exact ⟨⟨history, hjournal, hphase⟩, observed, decision, hobserved, hassess, hready⟩

/-- **The readback**: what was observed behind a command, assessed. -/
theorem readback_keeps (sent : List Mutation) {command : Method φ (Answer (Value φ))} {names : List String}
    (hstages : State.stages st.phase = some names) (hstage : "readback" ∈ names)
    {observation invalid : String} (hobservation : observation ≠ "") (hinvalid : invalid ≠ "")
    (h : op.Keeps command s g (fun _ g' => op.Current st sent g') fun _ => False)
    {α : Type} {rest : Readback φ → ReadinessDecision → Method φ α} {ok : α → Trace φ → Prop}
    (hrest : ∀ readback decision g', op.Current st sent g' → readback.Valid →
      g'.observed = some readback.observed →
      assess op.selected op.capability op.persistent readback.observed = .ok decision →
      op.Keeps (rest readback decision) s g' ok Stopped) :
    op.Keeps (do
      let readback ← op.orUnknown (op.commandAndReadback command) "readback" observation
      let decision ← op.orUnknown (op.assessed readback.observed) "readback" invalid
      rest readback decision) s g ok Stopped := by
  refine .seq (orUnknown_keeps st hstages hstage hobservation (commandAndReadback_keeps h))
    fun readback g1 hread => ?_
  obtain ⟨hcurrent, hvalid, hobserved⟩ := hread
  refine .seq (orUnknown_keeps st hstages hstage hinvalid
    ((assessed_keeps readback.observed).mono (fun _ _ => id) ?_)) fun decision g2 hassessed => ?_
  · rintro _ rfl
    exact ⟨sent, hcurrent⟩
  · obtain ⟨rfl, hassess⟩ := hassessed
    exact hrest readback decision _ hcurrent hvalid hobserved hassess

/-- **The bind**: once, behind its intent; the user is ready, or the alias is there. -/
theorem bind_keeps (hcurrent : op.Current st [.load] g) (hphase : st.phase = .bindIntent)
    (hintent : Recorded g.records Mutation.bind.intent) (handle : Int) :
    op.Keeps (op.bind handle) s g (fun result g' => (∀ r ∈ result, r = ⟨"ready", true⟩ ∧ op.ReadyAt g') ∧
      (result = none → ∃ st', op.Current st' [.load, .bind] g' ∧ st'.phase = .aliasObserved)) Stopped := by
  have hstages : State.stages st.phase = some ["bind", "readback"] := by rw [hphase]; rfl
  refine readback_keeps [.load, .bind] hstages (by decide) (by decide) (by decide)
    (mutate_keeps hcurrent (.bindAlias handle op.specialAlias) ?_ fun _ => rfl)
    fun readback decision g1 hbound hvalid hobserved hassess => ?_
  · rintro mutation ⟨⟩
    rw [hcurrent.sent]
    exact ⟨by decide, hintent⟩
  · refine .seq (terminalIf_keeps hbound hstages (by decide) (text_ne _) _) fun _ g2 hsame => ?_
    obtain ⟨rfl, -⟩ := hsame
    refine .seq (appendAfterMutation_keeps hbound (m := .aliasObserved) rfl
      (aliasObserved_accepts hbound.bound hphase hvalid)) fun _ g3 haliased => ?_
    obtain ⟨haliased, -, hobserved'⟩ := haliased
    split
    · rename_i hready
      refine .seq (appendAfterMutation_keeps haliased (m := .ready) rfl
        (readyObserved_accepts haliased.bound (.inl rfl) rfl hvalid)) fun _ g4 hactive => ?_
      obtain ⟨hactive, -, hobserved''⟩ := hactive
      refine .pure ⟨fun r hr => ⟨(Option.some.inj hr).symm, hactive.readyAt rfl ?_ hassess hready⟩, nofun⟩
      rw [hobserved'', hobserved', hobserved]
    · refine .seq (terminalIf_keeps haliased (show _ = some ["bind", "unlock", "readback"] from rfl) (by decide)
        (text_ne _) false) fun _ g4 hsame => ?_
      obtain ⟨rfl, -⟩ := hsame
      exact .pure ⟨nofun, fun _ => ⟨_, haliased, rfl⟩⟩

/-- **The unlock**: once, behind its intent; the user is ready. -/
theorem unlock_keeps (hcurrent : op.Current st sent g) (hphase : st.phase = .unlockIntent)
    (hfresh : Mutation.unlock ∉ sent) (hintent : Recorded g.records Mutation.unlock.intent)
    (password : Bytes) :
    op.Keeps (op.unlock password) s g (fun r g' => r = ⟨"ready", true⟩ ∧ op.ReadyAt g') Stopped := by
  have hstages : State.stages st.phase = some ["unlock", "readback"] := by rw [hphase]; rfl
  refine readback_keeps (sent ++ [.unlock]) hstages (by decide) (by decide) (by decide)
    (mutate_keeps hcurrent (.unlockAlias op.specialAlias password) ?_ fun _ => rfl)
    fun readback final g1 hunlocked hvalid hobserved hassess => ?_
  · rintro mutation ⟨⟩
    rw [hcurrent.sent]
    exact ⟨hfresh, hintent⟩
  · refine .seq (terminalIf_keeps hunlocked hstages (by decide) (text_ne _) _) fun _ g2 hsame => ?_
    obtain ⟨rfl, hready⟩ := hsame
    have hsource : st.readySource = "unlock-readback" := if_neg (by rw [hphase]; decide)
    refine .seq (appendAfterMutation_keeps hunlocked (m := .ready) rfl
      (readyObserved_accepts hunlocked.bound (.inr hphase) hsource hvalid)) fun _ g3 hactive => ?_
    obtain ⟨hactive, -, hobserved'⟩ := hactive
    exact .pure ⟨rfl, hactive.readyAt rfl (hobserved'.trans hobserved) hassess (not_not.mp hready)⟩

/-- **Behind the creation of the journal**: the user is ready, or the journal says what stopped. -/
theorem activate_keeps (hcurrent : op.Current st [] g) (hphase : st.phase = .baseline)
    {initialState : ReadinessState} (hpreexisting : st.aliasPreexisting = !(initialState = .aliasAbsent))
    (password : Bytes) :
    op.Keeps (op.activate initialState password) s g (fun r g' => r = ⟨"ready", true⟩ ∧ op.ReadyAt g')
      Stopped := by
  unfold activate
  split
  · rename_i habsent
    have hpreexisting : st.aliasPreexisting = false := by simpa [habsent] using hpreexisting
    refine .seq (load_keeps hcurrent hphase hpreexisting) fun handle g1 hloaded => ?_
    obtain ⟨st1, hloaded, hphase1, hintent⟩ := hloaded
    refine .seq (bind_keeps hloaded hphase1 hintent handle) fun result g2 hbound => ?_
    cases result with
    | some result => exact .pure (hbound.1 result rfl)
    | none =>
      obtain ⟨st2, haliased, hphase2⟩ := hbound.2 rfl
      refine .seq (appendAfterMutation_keeps haliased (m := .unlockIntent) rfl
        (unlockIntent_accepts haliased.bound (.inr hphase2))) fun _ g3 hunlocking => ?_
      exact unlock_keeps hunlocking.1 rfl (by decide) hunlocking.2.1 password
  · rename_i hpresent
    have hpreexisting : st.aliasPreexisting = true := by simpa [hpresent] using hpreexisting
    refine .seq (append_keeps hcurrent (m := .unlockIntent) rfl
      (unlockIntent_accepts hcurrent.bound (.inl ⟨hphase, hpreexisting⟩))) fun _ g1 hunlocking => ?_
    exact unlock_keeps hunlocking.1 rfl List.not_mem_nil hunlocking.2.1 password

/-! ### Creating -/

theorem validateBaseline_ok (baseline : Value φ) : Returns (validateBaseline baseline) fun _ =>
    isUuid (baseline.get "runtime_generation") = true ∧
      isBool (baseline.get "alias_preexisting") = true ∧
      (baseline.get "alias_preexisting").isTrue = !(baseline.get "initial_state").isStr (py "alias-absent") := by
  refine .skip fun _ => .skip fun _ => .seq fun huuids => .skip fun _ => .skip fun _ => .skip fun _ =>
    .skip fun _ => .skip fun _ => .skip fun _ => .skip fun _ => ?_
  intro _ hprovenance
  obtain ⟨hbool, hstate⟩ := not_or.mp (reject_eq_ok.mp hprovenance)
  refine ⟨requireUuid_eq_ok.mp (requireAll_ok huuids _ (by simp)), not_not.mp hbool, ?_⟩
  exact Bool.eq_not_of_ne hstate

theorem text_absent (state : ReadinessState) :
    (Value.str (py state.text) : Value φ).isStr (py "alias-absent") = decide (state = .aliasAbsent) := by
  cases state <;> rfl

/-- **The first record** is accepted: the machine is at the baseline. -/
theorem start_firstRecord {id : PyStr} {baseline : Value φ} (hbaseline : validateBaseline baseline = .ok ())
    (hid : isUuid (.str id : Value φ) = true) :
    ∃ history, validateHistory [firstRecord id (baselineEvidence baseline)] = .ok history ∧
      history.toState = { operationId := .str id, baseline } := by
  obtain ⟨hoperation, hmilestone, hevidence, -⟩ :=
    TypedJournal.writtenRecord_fields id ([] : List (Value φ))
      ⟨py "USER_ACTIVATION_BASELINE", baselineEvidence baseline⟩
  have hstart : start (firstRecord id (baselineEvidence baseline)) =
      .ok { operationId := .str id, baseline } := by
    unfold start firstRecord
    rw [hmilestone, hevidence, hoperation]
    refine (passTest (not_not.mpr (isStr_iff.mpr rfl))).trans ?_
    refine (passes (reject_neg (not_not.mpr (hasKeys_members rfl)))).trans ?_
    simp only [baselineEvidence, get_members, List.lookup_cons, String.reduceBEq, Option.getD_some]
    refine (passTest (not_not.mpr (isStr_iff.mpr rfl))).trans ?_
    exact (passes hbaseline).trans ((passes (requireUuid_eq_ok.mpr hid)).trans rfl)
  exact ⟨_, validateHistory_ok.mpr ⟨_, journalRun_singleton _ |>.trans hstart, rfl⟩, rfl⟩

/-- What the journal looks up in the baseline. -/
theorem baseline_get (op : UserActivation φ) (initialState : ReadinessState) (aliasPreexisting : Value φ) :
    (op.baseline initialState aliasPreexisting).get "runtime_generation" = op.runtimeGeneration ∧
      (op.baseline initialState aliasPreexisting).get "keybag_sha256" = .str op.selected.keybagSha256 ∧
      (op.baseline initialState aliasPreexisting).get "special_alias" = .int op.specialAlias ∧
      (op.baseline initialState aliasPreexisting).get "initial_state" = .str (py initialState.text) := by
  simp [baseline, get_members, List.lookup_cons]

theorem unintended_of_nil (h : g.records = []) : Unintended g := by
  rintro mutation ⟨record, hrecord, -⟩
  rw [h] at hrecord
  exact nomatch hrecord

/-- **The creation of the journal**: at the baseline of the operation, and nothing was sent. -/
theorem create_keeps {operationId : Value φ} (hid : strOf operationId = op.operationId)
    (hrecords : g.records = []) (hsent : g.sent = []) {before : AliasEvidence φ} {decision : ReadinessDecision}
    (hassess : assess op.selected op.capability op.persistent before = .ok decision) :
    op.Keeps (op.create operationId before) s g (fun _ g' => ∃ st, op.Current st [] g' ∧
      st.phase = .baseline ∧ st.aliasPreexisting = !(decision.state = .aliasAbsent)) Unintended := by
  refine .seq ((assessed_keeps before).mono (fun _ _ => id) ?_) fun decision' g1 hassessed => ?_
  · rintro _ rfl
    exact unintended_of_nil hrecords
  obtain ⟨rfl, hassess'⟩ := hassessed
  obtain rfl := Except.ok.inj (hassess.symm.trans hassess')
  refine .seq (M := fun _ g' => g' = g1 ∧ validateBaseline (op.baseline decision.state before.present) = .ok () ∧
    isUuid operationId = true) (.lift (fun _ htests => ?_) (unintended_of_nil hrecords)) fun _ g2 htests => ?_
  · obtain ⟨-, htests⟩ := raiseIf_ok.mp htests
    obtain ⟨_, hbaseline, huuid⟩ := bind_ok (mapError_ok.mp htests)
    exact ⟨rfl, hbaseline, requireUuid_eq_ok.mp huuid⟩
  · obtain ⟨rfl, hbaseline, huuid⟩ := htests
    obtain ⟨id, rfl⟩ := str_of_uuid huuid
    obtain rfl : id = op.operationId := hid
    obtain ⟨history, hfirst, hst⟩ := start_firstRecord hbaseline huuid
    obtain ⟨hruntime, -, hprovenance⟩ := validateBaseline_ok _ _ hbaseline
    obtain ⟨hgeneration, hkeybag, halias, hinitial⟩ := baseline_get op decision.state before.present
    rw [hgeneration] at hruntime
    rw [hinitial, text_absent] at hprovenance
    refine .seq (M := fun reply g' => (∀ failure, reply = .error failure → g'.records = []) ∧
      ∀ history', reply = .ok history' → op.Current history.toState [] g') ?_ fun reply g3 hcreated => ?_
    · refine call_keeps ⟨rfl, hrecords, history, hfirst⟩ fun reply hreply => ⟨?_, ?_⟩
      · rintro failure rfl
        exact hrecords
      · rintro history' rfl
        exact ⟨⟨history, hfirst, rfl⟩, by rw [hst], hst ▸ ⟨hgeneration, hruntime, hkeybag, halias⟩, hsent⟩
    · cases reply with
      | error failure => exact .raise (unintended_of_nil (hcreated.1 failure rfl))
      | ok history' => exact .pure ⟨_, hcreated.2 history' rfl, by rw [hst], by rw [hst]; exact hprovenance⟩

/-! ### The whole operation -/

theorem Keeps.get {ok : Password → Trace φ → Prop} (h : ok s g) : op.Keeps Op.get s g ok err :=
  Op.Meets.get ⟨rfl, h⟩

theorem authorize_ok {authorityTime operationId : Value φ} (h : op.authorize authorityTime = .ok operationId) :
    strOf operationId = op.operationId := by
  unfold authorize at h
  split at h
  · rename_i id hauthorized
    cases h
    obtain ⟨-, -, -, -, -, -, -, binding, -, hbinding, -, -, -, rfl⟩ := requireBoundAuthority_ok.mp hauthorized
    rw [UserActivation.operationId, hbinding]
  · exact nomatch h
  · exact nomatch h

theorem preflight_keeps : op.Keeps op.preflight s g (fun found g' => g'.records = g.records ∧
    g'.sent = g.sent ∧ assess op.selected op.capability op.persistent found.1 = .ok found.2)
    (fun g' => g'.records = g.records) := by
  refine .except (E := fun g' => g'.records = g.records) ?_ fun _ _ hsame => .raise hsame
  refine .seq (observe_keeps.mono (fun _ _ => id) fun _ hsame => hsame.1) fun before g1 hobserved => ?_
  obtain ⟨hrecords, hsent, -⟩ := hobserved
  refine .seq ((assessed_keeps before).mono (fun _ _ => id) ?_) fun decision g2 hassessed => ?_
  · rintro _ rfl
    exact hrecords
  · obtain ⟨rfl, hassess⟩ := hassessed
    exact .pure ⟨hrecords, hsent, hassess⟩

/-- **Up to the first record**: nothing is sent, and nothing is journaled but the baseline. -/
theorem prepare_keeps (hrecords : g.records = []) (hsent : g.sent = []) :
    op.Keeps op.prepare s g (fun prepared g' =>
      (∀ result, prepared = .inr result → result = ⟨"already-ready", false⟩ ∧ g'.records = [] ∧ g'.sent = []) ∧
      ∀ initialState password, prepared = .inl (initialState, password) →
        ∃ st, op.Current st [] g' ∧ st.phase = .baseline ∧
          st.aliasPreexisting = !(initialState = .aliasAbsent)) Unintended := by
  have hunintended : Unintended g := unintended_of_nil hrecords
  refine .seq (M := fun _ g' => g' = g) (.lift (fun _ _ => rfl) hunintended) ?_
  rintro _ _ rfl
  refine .seq (M := fun _ g' => g'.records = [] ∧ g'.sent = []) ?_ fun authorityTime g1 hclock => ?_
  · -- the clock
    refine .except (E := fun g' => g'.records = []) ?_ fun _ _ hsame => .raise (unintended_of_nil hsame)
    exact answered_keeps .clock id (fun _ h => by cases h)
      (fun _ _ => ⟨hrecords, (List.append_nil _).trans hsent⟩) fun _ => hrecords
  obtain ⟨hrecords, hsent⟩ := hclock
  refine .seq (M := fun operationId g' => g' = g1 ∧ strOf operationId = op.operationId)
    (.lift (fun id hid => ⟨rfl, authorize_ok hid⟩) (unintended_of_nil hrecords)) fun operationId g2 hid => ?_
  obtain ⟨rfl, hid⟩ := hid
  refine .seq (M := fun _ g' => g' = g2) (.get rfl) ?_
  rintro _ g2 rfl
  refine .seq (M := fun _ g' => g' = g2) (.lift (fun _ _ => rfl) (unintended_of_nil hrecords)) ?_
  rintro _ _ rfl
  refine .seq (preflight_keeps.mono (fun _ _ => id) fun _ hsame => unintended_of_nil (hsame.trans hrecords))
    fun found g3 hfound => ?_
  obtain ⟨before, decision⟩ := found
  obtain ⟨hrecords', hsent', hassess⟩ := hfound
  have hrecords : g3.records = [] := hrecords'.trans hrecords
  have hsent : g3.sent = [] := hsent'.trans hsent
  show op.Keeps (ite _ _ _) s g3 _ _
  split
  · refine .pure ⟨fun result hresult => ?_, fun _ _ h => by cases h⟩
    cases hresult
    exact ⟨rfl, hrecords, hsent⟩
  · refine .seq (M := fun _ g' => g' = g3) (.lift (fun _ _ => rfl) (unintended_of_nil hrecords)) ?_
    rintro _ g4 rfl
    refine .seq (M := fun _ g' => g' = g4) ?_ ?_
    · refine .seq (M := fun _ g' => g' = g4) (.get rfl) ?_
      rintro password _ rfl
      cases password with
      | bytearray password => exact .pure rfl
      | none => exact .raise (unintended_of_nil hrecords)
      | other => exact .raise (unintended_of_nil hrecords)
    · rintro password _ rfl
      refine .seq (create_keeps hid hrecords hsent hassess) fun _ g3 hcreated => .pure ⟨(fun _ h => by cases h), ?_⟩
      rintro initialState _ ⟨⟩
      exact hcreated

theorem body_keeps (hrecords : g.records = []) (hsent : g.sent = []) :
    op.Keeps op.body s g op.Finished fun g' => Unintended g' ∨ Stopped g' := by
  refine .seq ((prepare_keeps hrecords hsent).mono (fun _ _ => id) fun _ => .inl) fun prepared g1 hprepared => ?_
  cases prepared with
  | inr result => exact .pure (.inl (hprepared.1 result rfl))
  | inl found =>
    obtain ⟨initialState, password⟩ := found
    obtain ⟨st, hcurrent, hphase, hpreexisting⟩ := hprepared.2 initialState password rfl
    exact (activate_keeps hcurrent hphase hpreexisting password).mono (fun _ _ => .inr) fun _ => .inr

theorem run_meets (op : UserActivation φ) (password : Password) :
    Op.Meets (contract op.operationId) op.run password {} (fun result _ g => op.Finished result g)
      fun _ _ g => Unintended g ∨ Stopped g := by
  have hbody : Op.Meets (contract op.operationId) (op.body.ensuring Password.wipe) password {}
      (fun result _ g => op.Finished result g) fun _ _ g => Unintended g ∨ Stopped g :=
    Op.Meets.ensuring (Op.Meets.mono (body_keeps rfl rfl) (fun _ _ _ h => h.2) fun _ _ _ h => h.2)
  refine Op.Meets.bind (Op.Meets.get ?_)
  cases password with
  | other => exact Op.Meets.raise (.inl (unintended_of_nil rfl))
  | none => exact hbody
  | bytearray bytes => exact hbody

end UserActivation

end Refinement

/-! ## A sample -/

/-- The activation of the sample user, with a decision of the policy. -/
def sampleUserActivation (authorization : UserPolicyDecision Unit) : UserActivation Unit where
  set := sampleMappingSet
  selected := sampleMapping
  capability := py "verify"
  persistent := samplePersistent
  runtimeGeneration := sampleUuid "1001"
  authorization := authorization
  linuxBootUuid := sampleUuid "0001"

end T2TouchId.User.Activation
