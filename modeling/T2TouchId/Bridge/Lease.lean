/-
  The lease of the Bridge, as an adapter sees it.

  An adapter (`src/t2_catacomb_bridge.py`, `src/t2_enrollment_bridge.py`) reads the connection's generation,
  gives commands and waits for events.  Whatever it asks may raise, and what it gets may be any object.

  1. **Data** — `Object`, `Raised`, and the three things that are asked (`Question`).
  2. **An exchange** — a request between two reads of the generation; `Failed` is how it may go wrong.
  3. **Logs** — `issued`: the commands with their replies.  `Silent`: no command behind what is not trusted.
-/
import T2TouchId.Calls
import T2TouchId.Trace
import T2TouchId.User.Mapping

namespace T2TouchId.Bridge

open T2TouchId.Python T2TouchId.Calls T2TouchId.User

/-! ## Data -/

/-- What was raised: an error of the adapter's own class, or any other exception. -/
inductive Raised
  | own (text : String)
  | other
  deriving DecidableEq

/-- A Python object. -/
inductive Object
  | none
  | bool (b : Bool)
  | int (n : Int)
  | bytes (data : Bytes)
  | str (text : PyStr)
  | list (items : List Object)
  | tuple (items : List Object)
  /-- Of another type, with what `!=` answers for it and a number. -/
  | other (ne : Int → Except Raised Bool)

/-- `value != n`. -/
def Object.ne : Object → Int → Except Raised Bool
  | .bool b, n => .ok (decide ((b.toNat : Int) ≠ n))
  | .int m, n => .ok (decide (m ≠ n))
  | .other ne, n => ne n
  | _, _ => .ok true

/-- `BIOMETRIC_NIL_OUTPUT_SENTINEL`. -/
def biometricNilOutputSentinel : PyStr := py "d4161201-daf5-4bbd-ae4f-9bf319fabbe0"

/-- `is_biometric_nil_output`. -/
def isBiometricNilOutput : Object → Bool
  | .str text => text = biometricNilOutputSentinel
  | _ => false

theorem isBiometricNilOutput_iff {value : Object} :
    isBiometricNilOutput value = true ↔ value = .str biometricNilOutputSentinel := by
  constructor
  · intro h
    cases value with
    | str text => exact congrArg Object.str (of_decide_eq_true (p := text = biometricNilOutputSentinel) h)
    | none => exact nomatch h
    | bool b => exact nomatch h
    | int n => exact nomatch h
    | bytes data => exact nomatch h
    | list items => exact nomatch h
    | tuple items => exact nomatch h
    | other ne => exact nomatch h
  · rintro rfl
    exact decide_eq_true (p := biometricNilOutputSentinel = biometricNilOutputSentinel) rfl

/-- `biometric_command(command, version=…, value=0, data=…, output_capacity=…)`. -/
structure Command where
  command : Nat
  version : Nat
  data : Bytes
  outputCapacity : Nat
  deriving DecidableEq

/-- A call of `biometric_command` or of `wait_service_event`. -/
inductive Request
  | command (command : Command)
  | wait (timeout : Rat)

/-- What is asked of a lease. -/
inductive Question
  | generation
  | request (request : Request)

/-- What it replies, if it does not raise. -/
abbrev Reply : Question → Type
  | .generation => Except Raised PyStr
  | .request _ => Except Raised Object

/-- Code with the variables `S` that may ask a lease. -/
abbrev Adapter (S α : Type) : Type := Op Question Reply S Raised α

abbrev Log : Type := List (Exchange Question Reply)

section Questions

variable {S : Type}

/-- `self._lease.connection_generation != self.connection_generation`, which raises. -/
def checkGeneration (pinned : PyStr) : Adapter S Unit := do
  let generation ← (Op.ask Question.generation : Adapter S (Except Raised PyStr))
  let generation ← Op.lift generation
  Op.lift (raiseIf (generation ≠ pinned) (.own "Bridge connection generation changed"))

/-- `self._lease.biometric_command(…)` and `self._lease.wait_service_event(…)`. -/
def request (request : Request) : Adapter S Object := do
  let reply ← (Op.ask (Question.request request) : Adapter S (Except Raised Object))
  Op.lift reply

/-- A request between two reads of the generation. -/
def exchange (pinned : PyStr) (asked : Request) : Adapter S Object := do
  checkGeneration pinned
  let result ← request asked
  checkGeneration pinned
  return result

end Questions

/-! ## An exchange -/

section Exchange

variable {S : Type} {pinned : PyStr} {s : S} {log : Log}

theorem checkGeneration_meets {ok : Unit → S → Log → Prop} {err : Raised → S → Log → Prop}
    (hok : ok () s (log ++ [⟨.generation, .ok pinned⟩]))
    (herr : ∀ (reply : Except Raised PyStr) (error : Raised), reply ≠ .ok pinned →
      err error s (log ++ [⟨.generation, reply⟩])) :
    Op.Logged (checkGeneration pinned) s log ok err := by
  unfold checkGeneration
  refine .bind (.asked fun reply => .bind ?_)
  cases reply with
  | error error => exact .raise (herr (.error error) error nofun)
  | ok generation =>
    refine .pure (.lift ?_ ?_)
    · intro _ h
      have hsame := not_not.mp ((raiseIf_ok (f := fun _ => .ok ())).mp (by rw [h]; rfl)).1
      rwa [hsame]
    · intro error h
      refine herr _ _ fun hsame => ?_
      rw [raiseIf, if_neg (not_not.mpr (Except.ok.inj hsame))] at h
      exact nomatch h

/-- What is left in the log of an exchange that came to its end. -/
def exchanged (pinned : PyStr) (asked : Request) (value : Object) : Log :=
  [⟨.generation, .ok pinned⟩, ⟨.request asked, .ok value⟩, ⟨.generation, .ok pinned⟩]

/-- What is left of one that did not: another generation before the request or behind it, or what the request
    raised. -/
inductive Failed (pinned : PyStr) (asked : Request) : Log → Prop
  | before {reply : Except Raised PyStr} (h : reply ≠ .ok pinned) : Failed pinned asked [⟨.generation, reply⟩]
  | raised (error : Raised) :
      Failed pinned asked [⟨.generation, .ok pinned⟩, ⟨.request asked, .error error⟩]
  | behind {reply : Except Raised PyStr} (value : Object) (h : reply ≠ .ok pinned) :
      Failed pinned asked
        [⟨.generation, .ok pinned⟩, ⟨.request asked, .ok value⟩, ⟨.generation, reply⟩]

theorem exchange_meets {asked : Request} {ok : Object → S → Log → Prop} {err : Raised → S → Log → Prop}
    (hok : ∀ value, ok value s (log ++ exchanged pinned asked value))
    (herr : ∀ more error, Failed pinned asked more → err error s (log ++ more)) :
    Op.Logged (exchange pinned asked) s log ok err := by
  unfold exchange
  refine .bind (checkGeneration_meets ?_ fun reply error h => herr _ error (.before h))
  unfold request
  refine .bind (.bind (.asked fun reply => ?_))
  cases reply with
  | error error =>
    refine .raise ?_
    have h := herr _ error (.raised error)
    rwa [List.append_cons] at h
  | ok value =>
    refine .pure (.bind (checkGeneration_meets (.pure ?_) fun reply error h => ?_))
    · have h := hok value
      rw [exchanged, List.append_cons, List.append_cons] at h
      exact h
    · have hfailed := herr _ error (.behind value h)
      rw [List.append_cons, List.append_cons] at hfailed
      exact hfailed

end Exchange

/-! ## Logs -/

/-- A command with its reply. -/
abbrev Issued : Type := Command × Except Raised Object

/-- What was given as a command. -/
def issuedOf : Exchange Question Reply → Option Issued
  | ⟨.request (.command command), reply⟩ => some (command, reply)
  | ⟨.request (.wait _), _⟩ => none
  | ⟨.generation, _⟩ => none

/-- The commands of a log, with their replies. -/
def issued (log : Log) : List Issued := log.filterMap issuedOf

@[simp] theorem issued_append (log more : Log) : issued (log ++ more) = issued log ++ issued more :=
  List.filterMap_append

@[simp] theorem issued_exchanged (pinned : PyStr) (command : Command) (value : Object) :
    issued (exchanged pinned (.command command) value) = [(command, .ok value)] := rfl

section Silent

variable {trusted : Exchange Question Reply → Prop}

/-- Behind what is not trusted there is no command. -/
def Silent (trusted : Exchange Question Reply → Prop) (log : Log) : Prop :=
  Every (fun before e => (issuedOf e).isSome = true → ∀ earlier ∈ before, trusted earlier) log

theorem silent_nil : Silent trusted [] := every_nil _

theorem Silent.concat {log : Log} {e : Exchange Question Reply} (h : Silent trusted log)
    (hall : ∀ earlier ∈ log, trusted earlier) : Silent trusted (log ++ [e]) :=
  every_concat.mpr ⟨h, fun _ => hall⟩

/-- What is no command may follow anything. -/
theorem Silent.concat_quiet {log : Log} {e : Exchange Question Reply} (h : Silent trusted log)
    (he : issuedOf e = none) : Silent trusted (log ++ [e]) := by
  refine every_concat.mpr ⟨h, fun hsome => ?_⟩
  rw [he] at hsome
  exact nomatch hsome

/-- An exchange behind a log that is trusted, if a generation that was read is trusted. -/
theorem Silent.exchange {pinned : PyStr} {asked : Request} {log more : Log} (h : Silent trusted log)
    (hall : ∀ earlier ∈ log, trusted earlier) (hgeneration : trusted ⟨.generation, .ok pinned⟩)
    (hmore : Failed pinned asked more ∨ ∃ value, more = exchanged pinned asked value) :
    Silent trusted (log ++ more) := by
  have hread : ∀ earlier ∈ log ++ [⟨.generation, .ok pinned⟩], trusted earlier := by
    intro earlier hearlier
    rcases List.mem_append.mp hearlier with hearlier | hearlier
    · exact hall earlier hearlier
    · rwa [List.mem_singleton.mp hearlier]
  have hasked : ∀ reply : Except Raised Object,
      Silent trusted (log ++ [⟨.generation, .ok pinned⟩] ++ [⟨.request asked, reply⟩]) :=
    fun reply => (h.concat hall).concat hread
  rcases hmore with hmore | ⟨value, rfl⟩
  · cases hmore with
    | before hne => exact h.concat hall
    | raised error =>
      rw [List.append_cons]
      exact hasked _
    | behind value hne =>
      rw [List.append_cons, List.append_cons]
      exact (hasked _).concat_quiet rfl
  · rw [exchanged, List.append_cons, List.append_cons]
    exact (hasked _).concat_quiet rfl

end Silent

end T2TouchId.Bridge
