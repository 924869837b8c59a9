/-
  Programs that persist a plan.

  The enrollment persists up to two batches, the deletion of an identity a single component.  Both ask the same
  things of a transport, an encoder, and a store, and both record the same milestones, in different journals.

  1. **Data** — `Command` with its answers; `Reaction`: what comes back from a call.
  2. **Specification** — `Announces`: the record behind which a call may be made.  `contract`: each call is announced
     by the last record, no append is refused, and behind an append that failed only a marker is appended.
  3. **Journals** — `Carrier`: a journal that takes what its tracker takes.
  4. **Rules** — one for each kind of question.
-/
import T2TouchId.Journal.Client
import T2TouchId.Journal.Persistence.Accepts

set_option linter.unusedSectionVars false

namespace T2TouchId.Journal.Persistence

open T2TouchId.Calls T2TouchId.Python T2TouchId.Python.Json

/-! ## Data -/

/-- What comes back from a call. -/
inductive Reaction (α : Type)
  /-- An exception that the operation handles. -/
  | raised
  /-- An exception that passes its handler. -/
  | interrupted
  | returned (a : α)

/-- The names and digests of staged files. -/
abbrev Staged (φ : Type) := List (PyStr × Value φ)

/-- The calls of the transport, of the encoder, of the host's store, and of the read-back. -/
inductive Command (φ : Type)
  | beginStage (expectedNames : List PyStr)
  | prepare (descriptor : Bytes)
  | complete (descriptor : Bytes)
  | encode (name : PyStr) (secureBlob : Bytes)
  | stageComponent (name : PyStr) (encoded : Bytes) (expectedNames : List PyStr)
  | confirm (descriptor : Bytes)
  | crossCommitBoundary (expected : Staged φ)
  | readback

/-- The answers, with attestations of this type; `none` is an object of another class than the one asked for. -/
@[reducible] def CommandAnswer (φ A : Type) : Command φ → Type
  | .beginStage _ | .crossCommitBoundary _ => Reaction Unit
  | .prepare _ => Reaction (Value φ × Value φ)
  | .complete _ => Reaction (Value φ × Option Bytes)
  | .encode _ _ => Reaction (Option Bytes)
  | .stageComponent _ _ _ | .confirm _ => Reaction (Value φ)
  | .readback => Reaction (Option A)

section Client

variable {φ : Type} [JsonFloat φ] {H A S ε : Type}

/-! ## Specification -/

/-- The tracker is at a component with this descriptor. -/
def AtDescriptor (t : Tracker φ) (descriptor : Bytes) : Prop :=
  ∃ b c name, t.At b c (name, py (sha256 descriptor).hex)

/-- The names of the batch that the tracker is at. -/
def namesOf (t : Tracker φ) (b : Nat) : List PyStr := (t.batches.getD b []).map Prod.fst

/-- **The record behind which a call may be made**, as the tracker has taken it. -/
inductive Announces (t : Tracker φ) : Command φ → Prop
  | beginStage {b : Nat} {component : Component} : t.phase = .componentReady → t.At b 0 component →
      Announces t (.beginStage (namesOf t b))
  | prepare {descriptor : Bytes} : t.phase = .prepareIntent → AtDescriptor t descriptor →
      Announces t (.prepare descriptor)
  | complete {descriptor : Bytes} : t.phase = .completeIntent → AtDescriptor t descriptor →
      Announces t (.complete descriptor)
  | encode {b c : Nat} {component : Component} {secureBlob : Bytes} : t.phase = .secureBlobCaptured →
      t.At b c component → t.capturedBlobSha256 = .str (py (sha256 secureBlob).hex) →
      Announces t (.encode component.1 secureBlob)
  | stageComponent {b c : Nat} {component : Component} {encoded : Bytes} : t.phase = .secureBlobCaptured →
      t.At b c component → Announces t (.stageComponent component.1 encoded (namesOf t b))
  | confirm {descriptor : Bytes} : t.phase = .confirmIntent ∨ t.phase = .finalConfirmIntent →
      AtDescriptor t descriptor → Announces t (.confirm descriptor)
  | crossCommitBoundary : t.phase = .batchCommitIntent → Announces t (.crossCommitBoundary t.staged)
  | readback : t.phase = .attestationReady → Announces t .readback

variable (J : TypedJournal φ H) (tracker : H → Tracker φ) (operationId : PyStr)
  (Refusable : Tracker φ → String → Value φ → Prop) (marks : List String)

/-- The storage may fail at any append, and the calls may answer anything.  The state is what is in the journal, as
    long as that is known: an append that the journal takes and that raises leaves it unknown. -/
def contract : Contract (Query φ (Command φ)) (Reply φ H (CommandAnswer φ A)) (Option (List (Value φ))) where
  allows
    | some records, .append milestone evidence => ∃ current, J.validate records = .ok current ∧
        ((∃ history, (J.faultless operationId records milestone evidence).1 = .ok history) ∨
          Refusable (tracker current) milestone evidence)
    | some records, .call command => ∃ current, J.validate records = .ok current ∧ Announces (tracker current) command
    | none, .append milestone _ => milestone ∈ marks
    | none, .call _ => False
  replies
    | some records, .append milestone evidence, reply =>
      ∀ history, reply = .ok history → (J.faultless operationId records milestone evidence).1 = .ok history
    | _, _, _ => True
  next
    | some records, .append milestone evidence, reply =>
      match reply, (J.faultless operationId records milestone evidence).1 with
      | .error _, .ok _ => none
      | _, _ => some (J.faultless operationId records milestone evidence).2
    | state, _, _ => state

/-! ## Journals -/

/-- The phases behind which a journal takes no milestone of the persistence. -/
def settled : List PersistencePhase := [.complete, .outcomeUnknown]

/-- **A journal that takes what its tracker takes.**  `Holds` are the records with a tracker that goes on, `Behind` is
    the history behind a milestone. -/
structure Carrier (Holds : List (Value φ) → Tracker φ → Prop) (Behind : H → Tracker φ → Prop) : Prop where
  reads {records : List (Value φ)} {t : Tracker φ} : Holds records t →
    ∃ history, J.validate records = .ok history ∧ tracker history = t
  takes {records : List (Value φ)} {t t' : Tracker φ} {milestone : String} {evidence : Value φ}
    {handler : Tracker φ → Value φ → Check φ (Tracker φ)} :
    Holds records t → (milestone, handler) ∈ Tracker.handlers → handler t evidence = .ok t' →
    ∃ history records', J.faultless operationId records milestone evidence = (.ok history, records') ∧
      J.validate records' = .ok history ∧ Behind history t' ∧ (t'.phase ∉ settled → Holds records' t')
  refuses {records : List (Value φ)} {t : Tracker φ} {milestone : String} {evidence : Value φ}
    {handler : Tracker φ → Value φ → Check φ (Tracker φ)} :
    Holds records t → (milestone, handler) ∈ Tracker.handlers → (∀ t', handler t evidence ≠ .ok t') →
    ∃ failure, J.faultless operationId records milestone evidence = (.error failure, records)

/-! ## Rules -/

variable {J tracker operationId Refusable marks} {Holds : List (Value φ) → Tracker φ → Prop}
  {Behind : H → Tracker φ → Prop} {records : List (Value φ)} {t t' : Tracker φ} {milestone : String}
  {evidence : Value φ} {handler : Tracker φ → Value φ → Check φ (Tracker φ)} {s : S} {err : ε → S → Option (List (Value φ)) → Prop}

/-- **A milestone that the tracker takes**: it is appended, or nothing is known of the journal any more. -/
theorem Carrier.append_meets (carrier : Carrier J tracker operationId Holds Behind) (h : Holds records t)
    (hmem : (milestone, handler) ∈ Tracker.handlers) (hstep : handler t evidence = .ok t')
    {ok : Except (Failure φ) H → S → Option (List (Value φ)) → Prop}
    (hreturned : ∀ history records', J.validate records' = .ok history → Behind history t' →
      (t'.phase ∉ settled → Holds records' t') → ok (.ok history) s (some records'))
    (hfailed : ∀ failure, ok (.error failure) s none) :
    Op.Meets (contract (A := A) J tracker operationId Refusable marks) (Client.append milestone evidence) s
      (some records) ok err := by
  obtain ⟨current, hcurrent, htracker⟩ := carrier.reads h
  obtain ⟨history, records', hfaultless, hvalid, hbehind, hholds⟩ := carrier.takes h hmem hstep
  refine Client.append_meets ⟨current, hcurrent, .inl ⟨history, congrArg Prod.fst hfaultless⟩⟩ fun reply hreply => ?_
  cases reply with
  | ok found =>
    obtain rfl : history = found := by
      have hfound := hreply found rfl
      rw [hfaultless] at hfound
      exact Except.ok.inj hfound
    have hnext : (contract (A := A) J tracker operationId Refusable marks).next (some records)
        (.append milestone evidence) (.ok history) = some records' := by
      show some (J.faultless operationId records milestone evidence).2 = some records'
      rw [hfaultless]
    rw [hnext]
    exact hreturned history records' hvalid hbehind hholds
  | error failure =>
    have hnext : (contract (A := A) J tracker operationId Refusable marks).next (some records)
        (.append milestone evidence) (.error failure) = none := by
      simp only [contract, hfaultless]
    rw [hnext]
    exact hfailed failure

/-- A milestone that the journal refuses: nothing is written. -/
theorem Carrier.append_refused (carrier : Carrier J tracker operationId Holds Behind) (h : Holds records t)
    (hmem : (milestone, handler) ∈ Tracker.handlers) (hrefused : ∀ t', handler t evidence ≠ .ok t')
    (hrefusable : Refusable t milestone evidence)
    {ok : Except (Failure φ) H → S → Option (List (Value φ)) → Prop}
    (hfailed : ∀ failure, ok (.error failure) s (some records)) :
    Op.Meets (contract (A := A) J tracker operationId Refusable marks) (Client.append milestone evidence) s
      (some records) ok err := by
  obtain ⟨current, hcurrent, htracker⟩ := carrier.reads h
  obtain ⟨refusal, hfaultless⟩ := carrier.refuses h hmem hrefused
  refine Client.append_meets ⟨current, hcurrent, .inr (htracker ▸ hrefusable)⟩ fun reply hreply => ?_
  cases reply with
  | ok found =>
    have hfound := hreply found rfl
    rw [hfaultless] at hfound
    cases hfound
  | error failure =>
    have hnext : (contract (A := A) J tracker operationId Refusable marks).next (some records)
        (.append milestone evidence) (.error failure) = some records := by
      simp only [contract, hfaultless]
    rw [hnext]
    exact hfailed failure

/-- A marker behind an append that failed. -/
theorem append_lost (hmark : milestone ∈ marks) {ok : Except (Failure φ) H → S → Option (List (Value φ)) → Prop}
    (hok : ∀ reply, ok reply s none) :
    Op.Meets (contract (A := A) J tracker operationId Refusable marks) (Client.append milestone evidence) s none ok err :=
  Client.append_meets hmark fun reply _ => hok reply

/-- A call that the last record announces. -/
theorem Carrier.call_meets (carrier : Carrier J tracker operationId Holds Behind) (h : Holds records t)
    {command : Command φ} (hannounces : Announces t command)
    {ok : CommandAnswer φ A command → S → Option (List (Value φ)) → Prop} (hok : ∀ answer, ok answer s (some records)) :
    Op.Meets (contract J tracker operationId Refusable marks) (Client.call command) s (some records) ok err := by
  obtain ⟨current, hcurrent, htracker⟩ := carrier.reads h
  exact Client.call_meets ⟨current, hcurrent, htracker ▸ hannounces⟩ fun answer _ => hok answer

end Client

end T2TouchId.Journal.Persistence
