/-
  Programs that write a journal.

  An operation appends a milestone, sends a command, appends what it saw, and so on.  It knows of the
  journal only what `append_checked` returns or raises.

  1. **Data** — `Query`: an append, or a command of the operation; `Reply`: what comes back.
  2. **The faultless journal** — `faultless` is `append_checked` on a file that is always readable, has
     room, and belongs to the operation; `appendChecked_faultless`: on such a file it is.
  3. **Contract** — `TypedJournal.contract`: appends are answered so, and none of them may be refused.
  4. **Faults** — `TypedJournal.Stored`: what is in the journal behind appends that fail in any way.
-/
import T2TouchId.Calls
import T2TouchId.Journal.Checked

set_option linter.unusedSectionVars false

namespace T2TouchId.Journal

open T2TouchId.Calls T2TouchId.Python T2TouchId.Python.Json

/-- What an operation asks: an append to its journal, or a command of its own. -/
inductive Query (φ C : Type)
  | append (milestone : String) (evidence : Value φ)
  | call (command : C)

/-- What comes back: the history or what `append_checked` raised, or the answer to the command. -/
@[reducible] def Reply (φ H : Type) {C : Type} (A : C → Type) : Query φ C → Type
  | .append _ _ => Except (Failure φ) H
  | .call command => A command

/-- A block of an operation with the variables `S` and the exceptions `ε`. -/
abbrev Client (φ H : Type) {C : Type} (A : C → Type) (S ε α : Type) : Type :=
  Op (Query φ C) (Reply φ H A) S ε α

/-- `append_checked`, and what it returns or raises. -/
def Client.append {φ H : Type} {C : Type} {A : C → Type} {S ε : Type} (milestone : String)
    (evidence : Value φ) : Client φ H A S ε (Except (Failure φ) H) :=
  Op.ask (Q := Query φ C) (.append milestone evidence)

/-- A command, and its answer. -/
def Client.call {φ H : Type} {C : Type} {A : C → Type} {S ε : Type} (command : C) :
    Client φ H A S ε (A command) :=
  Op.ask (Q := Query φ C) (.call command)

/-- What comes back from a function that may raise anything. -/
inductive Answer (α : Type)
  | raised
  | returned (a : α)

section Client

variable {φ : Type} [JsonFloat φ] {H : Type}

/-- The error of the module of a journal, as opposed to everything else that comes out of it. -/
def Failure.isTyped : Failure φ → Bool
  | .typed (.journal _) | .typed (.unsupported _ _) => true
  | _ => false

namespace TypedJournal

variable (J : TypedJournal φ H)

/-- `append_checked` where the storage has no faults: what it returns or raises, and the records. -/
def faultless (operationId : PyStr) (records : List (Value φ)) (milestone : String)
    (evidence : Value φ) : Except (Failure φ) H × List (Value φ) :=
  match J.accept records with
  | .error error => (.error error, records)
  | .ok current =>
    match J.tests records current operationId (py milestone) evidence with
    | .error error => (.error error, records)
    | .ok () =>
      let record := writtenRecord operationId records ⟨py milestone, evidence⟩
      (J.accept (records ++ [record]), records ++ [record])

/-- What stands in a written record. -/
theorem writtenRecord_fields (operationId : PyStr) (records : List (Value φ)) (entry : Entry φ) :
    (writtenRecord operationId records entry).get "operation_id" = .str operationId ∧
      (writtenRecord operationId records entry).get "milestone" = .str entry.milestone ∧
      (writtenRecord operationId records entry).get "evidence" = entry.evidence ∧
      isSha256 ((writtenRecord operationId records entry).get "record_hash") = true := by
  refine ⟨?_, milestone_written _ _ _, evidence_written _ _ _, ?_⟩ <;>
  rw [writtenRecord, unsignedEntry, withHash_unsignedRecord]
  · rfl
  · simp (disch := decide) only [Value.get, Value.get?, Value.find]
    exact isSha256_hash _

theorem candidate_hash (operationId milestone : PyStr) (evidence : Value φ) :
    isSha256 ((candidate operationId milestone evidence).get "record_hash") = true := by
  simp only [candidate, get_members, List.lookup_cons, String.reduceBEq, Option.getD_some]
  exact isSha256_zeros

/-- No append is refused, each is answered as the storage without faults does, and commands are answered
    in any way. -/
def contract {C : Type} (A : C → Type) (operationId : PyStr) :
    Contract (Query φ C) (Reply φ H A) (List (Value φ)) where
  allows records
    | .append milestone evidence =>
      ∃ history, (J.faultless operationId records milestone evidence).1 = .ok history
    | .call _ => True
  replies records
    | .append milestone evidence, reply =>
      reply = (J.faultless operationId records milestone evidence).1
    | .call _, _ => True
  next records
    | .append milestone evidence, _ => (J.faultless operationId records milestone evidence).2
    | .call _, _ => records

/-- The records behind some exchanges, where the storage may fail: an append that raises has left its record
    or not, and one that returns has read it back. -/
inductive Stored {C : Type} {A : C → Type} (operationId : PyStr) : List (Value φ) →
    List (Exchange (Query φ C) (Reply φ H A)) → List (Value φ) → Prop
  | nil (records : List (Value φ)) : Stored operationId records [] records
  | returned {milestone : String} {evidence : Value φ} {history : H} {records log all}
      (accepted : J.validate (records ++ [writtenRecord operationId records ⟨py milestone, evidence⟩]) =
        .ok history)
      (rest : Stored operationId
        (records ++ [writtenRecord operationId records ⟨py milestone, evidence⟩]) log all) :
      Stored operationId records (⟨.append milestone evidence, .ok history⟩ :: log) all
  | written {milestone : String} {evidence : Value φ} {failure : Failure φ} {records log all}
      (rest : Stored operationId
        (records ++ [writtenRecord operationId records ⟨py milestone, evidence⟩]) log all) :
      Stored operationId records (⟨.append milestone evidence, .error failure⟩ :: log) all
  | refused {milestone : String} {evidence : Value φ} {failure : Failure φ} {records log all}
      (rest : Stored operationId records log all) :
      Stored operationId records (⟨.append milestone evidence, .error failure⟩ :: log) all
  | called {command : C} {answer : A command} {records log all}
      (rest : Stored operationId records log all) :
      Stored operationId records (⟨.call command, answer⟩ :: log) all

variable {C : Type} {A : C → Type} {operationId : PyStr} {records : List (Value φ)} {current after : H}
  {milestone : String} {evidence : Value φ}

/-- What the journal takes, it returns with one more record. -/
theorem faultless_accepted (hcurrent : J.validate records = .ok current)
    (htests : J.tests records current operationId (py milestone) evidence = .ok ())
    (hafter : J.validate (records ++ [writtenRecord operationId records ⟨py milestone, evidence⟩]) =
      .ok after) :
    J.faultless operationId records milestone evidence =
      (.ok after, records ++ [writtenRecord operationId records ⟨py milestone, evidence⟩]) := by
  rw [faultless, J.accept_ok.mpr hcurrent]
  simp only [htests]
  rw [J.accept_ok.mpr hafter]

/-- `append_checked` on a file that is read, that may be written, and that has room for the line. -/
theorem appendChecked_faultless {lower : PyStr → PyStr} {path : JournalPath} {line : Bytes}
    (hread : J.readHistory path = .ok (records, current))
    (hwrites : J.Writes lower path records current operationId (py milestone) evidence line)
    (hfile : FileFits path records line)
    (hline : validateRecords (lines path.content ++ [line]) =
      .ok (records ++ [writtenRecord operationId records ⟨py milestone, evidence⟩])) :
    (J.appendChecked lower path operationId (py milestone) evidence).1 =
        (J.faultless operationId records milestone evidence).1 ∧
      read (J.appendChecked lower path operationId (py milestone) evidence).2 =
        .ok (J.faultless operationId records milestone evidence).2 := by
  obtain ⟨hrecords, hcurrent⟩ := J.readHistory_ok.mp hread
  obtain ⟨record, after, happend, hnext, -, hresult⟩ := J.appendChecked_written hread hwrites
  have hafter := ((read_behind_iff hrecords happend hnext).mpr
    ⟨hfile.terminated, hfile.room, hfile.size, hline⟩).1
  have hfaultless : J.faultless operationId records milestone evidence =
      (J.accept (records ++ [writtenRecord operationId records ⟨py milestone, evidence⟩]),
        records ++ [writtenRecord operationId records ⟨py milestone, evidence⟩]) := by
    rw [faultless, J.accept_ok.mpr hcurrent]
    simp only [hwrites.1]
  rw [hresult, hfaultless]
  refine ⟨?_, hafter⟩
  rw [readHistory, wrapJournal_ok.mpr hafter]
  show ((J.accept _).map fun history => (_, history)).map Prod.snd = _
  cases J.accept (records ++ [writtenRecord operationId records ⟨py milestone, evidence⟩]) <;> rfl

end TypedJournal

/-! ## Rules -/

section Rules

variable {C : Type} {A : C → Type} {S ε : Type} {G : Type} {c : Contract (Query φ C) (Reply φ H A) G} {s : S}
  {g : G} {err : ε → S → G → Prop}

theorem Client.append_meets {milestone : String} {evidence : Value φ}
    {ok : Except (Failure φ) H → S → G → Prop} (hallows : c.allows g (.append milestone evidence))
    (h : ∀ reply, c.replies g (.append milestone evidence) reply →
      ok reply s (c.next g (.append milestone evidence) reply)) :
    Op.Meets c (Client.append milestone evidence : Client φ H A S ε _) s g ok err :=
  Op.Meets.ask hallows h

theorem Client.call_meets {command : C} {ok : A command → S → G → Prop}
    (hallows : c.allows g (.call command))
    (h : ∀ answer, c.replies g (.call command) answer → ok answer s (c.next g (.call command) answer)) :
    Op.Meets c (Client.call command : Client φ H A S ε _) s g ok err :=
  Op.Meets.ask (Q := Query φ C) hallows h

end Rules

end Client

end T2TouchId.Journal
