/-
  The Catacomb adapter (`CatacombBridgeTransport` in `src/t2_catacomb_bridge.py`).

  Problem: a Catacomb is saved in three commands.  What comes back of one of them may be anything, and once it is
  not known what the sensor did, nothing more may be sent to it.

  1. **The code** — `dispatch`, `prepare`, `complete` and `confirm`.
  2. **What is expected** — `Succeeded`: the reply of a command that went well.  `InOrder`: what may follow what.
  3. **The invariant (`Kept`)** — the variables tell the last command; one lemma for each method.
  4. **Result** — `transaction_order`, for every caller and every lease.
-/
import T2TouchId.Bridge.Lease
import T2TouchId.Catacomb.Protocol

namespace T2TouchId.Bridge

open T2TouchId.Python T2TouchId.Calls T2TouchId.User T2TouchId.Catacomb.Protocol

/-! ## The code -/

inductive TransactionState
  | idle
  | prepared
  | completed
  | poisoned
  deriving DecidableEq

structure CatacombBridgeTransport where
  protocolVersion : Nat
  connectionGeneration : PyStr
  state : TransactionState
  descriptor : Option Bytes
  expectedLength : Option Nat
  deriving DecidableEq

namespace CatacombBridgeTransport

/-- A new transport. -/
def init (protocolVersion : Nat) (connectionGeneration : PyStr) : CatacombBridgeTransport :=
  ⟨protocolVersion, connectionGeneration, .idle, none, none⟩

abbrev Code (α : Type) : Type := Adapter CatacombBridgeTransport α

/-- `_require_state`. -/
def requireState (expected : TransactionState) (operation : String) : Code Unit := do
  let self ← Op.get
  Op.lift (raiseIf (self.state = .poisoned)
    (.own "Catacomb Bridge generation is poisoned; reconciliation is required"))
  Op.lift (raiseIf (self.state ≠ expected) (.own s!"Catacomb {operation} is out of order"))

/-- `_require_descriptor`. -/
def requireDescriptor (descriptor : Bytes) : Code Unit := do
  let self ← Op.get
  Op.lift (raiseIf (some descriptor ≠ self.descriptor)
    (.own "Catacomb component changed during the persistence transaction"))

/-- `_poison`. -/
def poison : Code Unit := do
  let self ← Op.get
  Op.set { self with state := .poisoned }

/-- What `_dispatch` takes out of the result of a command. -/
def readReply (request : CatacombRequest) (result : Object) : Except Raised (Int × Bytes) :=
  match result with
  | .tuple [reply, .list []] =>
    match reply with
    | .list [.int status, output] =>
      if -(2 ^ 31) ≤ status ∧ status < 2 ^ 32 then
        if request.outputCapacity = 0 ∧ isBiometricNilOutput output = true then .ok (status, [])
        else match output with
          | .bytes data =>
            if data.length > request.outputCapacity then
              .error (.own "Bridge command exceeded its output capacity")
            else .ok (status, data)
          | _ => .error (.own "Bridge command output is not byte data")
      else .error (.own "Bridge command status is malformed")
    | .list [_, _] => .error (.own "Bridge command status is malformed")
    | _ => .error (.own "Bridge command reply is malformed")
  | .tuple [_, _] => .error (.own "Catacomb command emitted an unexpected service event")
  | _ => .error (.own "Bridge command result is malformed")

def commandOf (request : CatacombRequest) : Command :=
  ⟨request.command, request.protocolVersion, request.descriptor, request.outputCapacity⟩

/-- How `_dispatch` ends with an error. -/
def dispatchFailed (error : Raised) : Code (Int × Bytes) := do
  poison
  match error with
  | .own text => Op.raise (.own text)
  | .other => Op.raise (.own "Catacomb Bridge dispatch failed; reconciliation is required")

/-- `_dispatch`. -/
def dispatch (request : CatacombRequest) : Code (Int × Bytes) :=
  Op.except (do
    let self ← Op.get
    let result ← exchange self.connectionGeneration (.command (commandOf request))
    Op.lift (readReply request result))
    dispatchFailed

/-- `try: … except CatacombProtocolError`, which poisons. -/
def poisoning {α : Type} (text : String) : Except String α → Code α
  | .ok a => pure a
  | .error _ => do
    poison
    Op.raise (.own text)

/-- `prepare`. -/
def prepare (descriptor : Bytes) : Code Nat := do
  requireState .idle "prepare"
  let self ← Op.get
  let request ← Op.lift ((buildPrepareRequest self.protocolVersion descriptor).mapError fun _ =>
    Raised.own "Catacomb prepare descriptor is invalid")
  let answer ← dispatch request
  let expectedLength ← poisoning "Catacomb prepare reply is invalid" (parsePrepareReply answer.1 answer.2)
  let self ← Op.get
  Op.set { self with descriptor := some descriptor, expectedLength := some expectedLength, state := .prepared }
  return expectedLength

/-- `complete`. -/
def complete (descriptor : Bytes) : Code Bytes := do
  requireState .prepared "complete"
  requireDescriptor descriptor
  let self ← Op.get
  let expectedLength ← Op.lift (self.expectedLength.elim (.error .other) .ok)
  let request ← Op.lift ((buildCompleteRequest self.protocolVersion descriptor expectedLength).mapError fun _ =>
    Raised.other)
  let answer ← dispatch request
  let parsed ← poisoning "Catacomb complete reply is invalid" (parseCompleteReply answer.1 answer.2 expectedLength)
  let self ← Op.get
  Op.set { self with state := .completed }
  return parsed

/-- `confirm`. -/
def confirm (descriptor : Bytes) : Code Unit := do
  requireState .completed "confirm"
  requireDescriptor descriptor
  let self ← Op.get
  let request ← Op.lift ((buildConfirmRequest self.protocolVersion descriptor).mapError fun _ => Raised.other)
  let answer ← dispatch request
  poisoning "Catacomb confirm reply is invalid" (parseConfirmReply answer.1 answer.2)
  let self ← Op.get
  Op.set { self with descriptor := none, expectedLength := none, state := .idle }

/-- A call of one of the methods. -/
inductive Call
  | prepare (descriptor : Bytes)
  | complete (descriptor : Bytes)
  | confirm (descriptor : Bytes)
  deriving DecidableEq

/-- What it returns. -/
inductive Answer
  | prepared (expectedLength : Nat)
  | completed (output : Bytes)
  | confirmed
  deriving DecidableEq

def perform : Call → Code Answer
  | .prepare descriptor => do
    let expectedLength ← prepare descriptor
    return .prepared expectedLength
  | .complete descriptor => do
    let output ← complete descriptor
    return .completed output
  | .confirm descriptor => do
    confirm descriptor
    return .confirmed

/-! ## What is expected -/

def prepareCommand (version : Nat) (descriptor : Bytes) : Command :=
  ⟨commandPrepareSaveCatacomb, version, descriptor, 4⟩

def completeCommand (version : Nat) (descriptor : Bytes) (length : Nat) : Command :=
  ⟨commandCompleteSaveCatacomb, version, descriptor, length⟩

def confirmCommand (version : Nat) (descriptor : Bytes) : Command :=
  ⟨commandConfirmSaveCatacomb, version, descriptor, 0⟩

/-- The result of a command that went well, with this output and no event. -/
def succeeded (output : Object) : Object := .tuple [.list [.int 0, output], .list []]

/-- A Catacomb of this length was prepared. -/
def Prepares (value : Object) (length : Nat) : Prop :=
  ∃ data : Bytes, value = succeeded (.bytes data) ∧ data.length = 4 ∧ Bytes.leNat data = length ∧
    0 < length ∧ length ≤ maxSecureBlobSize

/-- It was given back. -/
def Completes (value : Object) (length : Nat) : Prop :=
  ∃ data : Bytes, value = succeeded (.bytes data) ∧ data.length = length

/-- It was confirmed: there is no output. -/
def Confirms (value : Object) : Prop :=
  value = succeeded (.bytes []) ∨ value = succeeded (.str biometricNilOutputSentinel)

/-- The command was answered as it should be. -/
structure Succeeded (command : Command) (value : Object) : Prop where
  prepares : command.command = commandPrepareSaveCatacomb → ∃ length, Prepares value length
  completes : command.command = commandCompleteSaveCatacomb → Completes value command.outputCapacity
  confirms : command.command = commandConfirmSaveCatacomb → Confirms value

/-- Nothing raised, the generation is the same, and the command was answered as it should be. -/
def Trusted (pinned : PyStr) : Exchange Question Reply → Prop
  | ⟨.generation, reply⟩ => reply = .ok pinned
  | ⟨.request (.command command), reply⟩ => ∃ value, reply = .ok value ∧ Succeeded command value
  | ⟨.request (.wait _), _⟩ => True

/-- What may follow the last command: after nothing or a confirmation another Catacomb is prepared, what was
    prepared is completed with its length, and what was completed is confirmed. -/
inductive InOrder (version : Nat) : Option Issued → Command → Prop
  | first (descriptor : Bytes) : InOrder version none (prepareCommand version descriptor)
  | again (confirmed descriptor : Bytes) (reply : Except Raised Object) :
      InOrder version (some (confirmCommand version confirmed, reply)) (prepareCommand version descriptor)
  | complete (descriptor : Bytes) {value : Object} {length : Nat} (h : Prepares value length) :
      InOrder version (some (prepareCommand version descriptor, .ok value)) (completeCommand version descriptor length)
  | confirm (descriptor : Bytes) (length : Nat) (reply : Except Raised Object) :
      InOrder version (some (completeCommand version descriptor length, reply)) (confirmCommand version descriptor)

/-- The variables tell the last command. -/
inductive Remembers (version : Nat) : TransactionState → Option Bytes → Option Nat → Option Issued → Prop
  | first : Remembers version .idle none none none
  | idle (descriptor : Bytes) (reply : Except Raised Object) :
      Remembers version .idle none none (some (confirmCommand version descriptor, reply))
  | prepared (descriptor : Bytes) {value : Object} {length : Nat} (h : Prepares value length) :
      Remembers version .prepared (some descriptor) (some length)
        (some (prepareCommand version descriptor, .ok value))
  | completed (descriptor : Bytes) (length : Nat) (reply : Except Raised Object) :
      Remembers version .completed (some descriptor) (some length)
        (some (completeCommand version descriptor length, reply))

section Remembers

variable {version : Nat} {descriptor : Option Bytes} {length : Option Nat} {last : Option Issued}

theorem Remembers.not_poisoned {state : TransactionState} (h : Remembers version state descriptor length last) :
    state ≠ .poisoned := by
  cases h <;> exact nofun

theorem inOrder_idle (h : Remembers version .idle descriptor length last) (next : Bytes) :
    InOrder version last (prepareCommand version next) := by
  cases h with
  | first => exact .first next
  | idle confirmed reply => exact .again confirmed next reply

theorem inOrder_prepared {prepared : Bytes} {n : Nat}
    (h : Remembers version .prepared (some prepared) (some n) last) :
    InOrder version last (completeCommand version prepared n) := by
  cases h with
  | prepared _ hprepares => exact .complete prepared hprepares

theorem inOrder_completed {completed : Bytes} (h : Remembers version .completed (some completed) length last) :
    InOrder version last (confirmCommand version completed) := by
  cases h with
  | completed _ n reply => exact .confirm completed n reply

end Remembers

/-! ## The invariant -/

/-- What holds of the log in every state. -/
structure Ordered (version : Nat) (pinned : PyStr) (log : Log) : Prop where
  order : Every (fun before one => InOrder version before.getLast? one.1) (issued log)
  silent : Silent (Trusted pinned) log

/-- The invariant: a poisoned transport has met something that is not to be trusted, any other one remembers the
    last command. -/
structure Kept (version : Nat) (pinned : PyStr) (transport : CatacombBridgeTransport) (log : Log) : Prop
    extends Ordered version pinned log where
  version_eq : transport.protocolVersion = version
  generation_eq : transport.connectionGeneration = pinned
  state : (transport.state = .poisoned ∧ ∃ e ∈ log, ¬ Trusted pinned e) ∨
    ((∀ e ∈ log, Trusted pinned e) ∧
      Remembers version transport.state transport.descriptor transport.expectedLength (issued log).getLast?)

theorem kept_init (version : Nat) (pinned : PyStr) : Kept version pinned (init version pinned) [] where
  order := every_nil _
  silent := silent_nil
  version_eq := rfl
  generation_eq := rfl
  state := .inr ⟨nofun, .first⟩

section Exchange

variable {version : Nat} {pinned : PyStr} {log more : Log} {command : Command}

/-- A command in its order, whatever comes of it. -/
theorem ordered_exchange (h : Ordered version pinned log) (hall : ∀ e ∈ log, Trusted pinned e)
    (hcommand : InOrder version (issued log).getLast? command)
    (hmore : Failed pinned (.command command) more ∨ ∃ value, more = exchanged pinned (.command command) value) :
    Ordered version pinned (log ++ more) := by
  refine ⟨?_, h.silent.exchange hall rfl hmore⟩
  rw [issued_append]
  rcases hmore with hmore | ⟨value, rfl⟩
  · cases hmore with
    | before hne =>
      rw [show issued [(⟨.generation, _⟩ : Exchange Question Reply)] = [] from rfl, List.append_nil]
      exact h.order
    | raised error => exact every_concat.mpr ⟨h.order, hcommand⟩
    | behind value hne => exact every_concat.mpr ⟨h.order, hcommand⟩
  · exact every_concat.mpr ⟨h.order, hcommand⟩

/-- An exchange that failed is not to be trusted. -/
theorem untrusted_of_failed (h : Failed pinned (.command command) more) : ∃ e ∈ more, ¬ Trusted pinned e := by
  cases h with
  | before hne => exact ⟨_, List.mem_singleton_self _, hne⟩
  | raised error =>
    refine ⟨⟨.request (.command command), .error error⟩, by simp, ?_⟩
    rintro ⟨value, hvalue, -⟩
    exact nomatch hvalue
  | @behind reply value hne => exact ⟨⟨.generation, reply⟩, by simp, hne⟩

end Exchange

/-- What `_dispatch` takes for the status and the output. -/
theorem readReply_ok {request : CatacombRequest} {result : Object} {status : Int} {data : Bytes} :
    readReply request result = .ok (status, data) ↔
      (-(2 ^ 31) ≤ status ∧ status < 2 ^ 32) ∧ data.length ≤ request.outputCapacity ∧
        (result = .tuple [.list [.int status, .bytes data], .list []] ∨
          request.outputCapacity = 0 ∧
            result = .tuple [.list [.int status, .str biometricNilOutputSentinel], .list []]) := by
  constructor
  · intro h
    unfold readReply at h
    split at h
    · split at h
      · split at h
        · rename_i hrange
          split at h
          · rename_i hnil
            obtain ⟨rfl, rfl⟩ := Prod.mk.inj (Except.ok.inj h)
            rw [isBiometricNilOutput_iff.mp hnil.2]
            exact ⟨hrange, Nat.zero_le _, .inr ⟨hnil.1, rfl⟩⟩
          · split at h
            · split at h
              · exact nomatch h
              · rename_i hlength
                obtain ⟨rfl, rfl⟩ := Prod.mk.inj (Except.ok.inj h)
                exact ⟨hrange, not_lt.mp hlength, .inl rfl⟩
            · exact nomatch h
        · exact nomatch h
      · exact nomatch h
      · exact nomatch h
    · exact nomatch h
    · exact nomatch h
  · rintro ⟨hrange, hlength, rfl | ⟨hcapacity, rfl⟩⟩
    · have hnot : ¬ (request.outputCapacity = 0 ∧ isBiometricNilOutput (.bytes data) = true) := fun h => nomatch h.2
      simp only [readReply]
      rw [if_pos hrange, if_neg hnot, if_neg (not_lt.mpr hlength)]
    · have hdata : data = [] := by
        rw [hcapacity] at hlength
        exact List.eq_nil_of_length_eq_zero (Nat.le_zero.mp hlength)
      simp only [readReply]
      rw [if_pos hrange, if_pos ⟨hcapacity, isBiometricNilOutput_iff.mpr rfl⟩, hdata]

/-- A status of zero is in its range. -/
theorem readReply_zero {request : CatacombRequest} {result : Object} {data : Bytes} :
    readReply request result = .ok (0, data) ↔ data.length ≤ request.outputCapacity ∧
      (result = succeeded (.bytes data) ∨
        request.outputCapacity = 0 ∧ result = succeeded (.str biometricNilOutputSentinel)) := by
  rw [readReply_ok]
  exact and_iff_right ⟨by decide, by decide⟩

theorem parsePrepareReply_ok {status : Int} {output : Bytes} {length : Nat} :
    parsePrepareReply status output = .ok length ↔ status = 0 ∧ output.length = 4 ∧
      Bytes.leNat output = length ∧ 0 < length ∧ length ≤ maxSecureBlobSize := by
  unfold parsePrepareReply requireSuccess
  rw [raiseIf_ok, raiseIf_ok, raiseIf_ok, not_not, not_not, not_not]
  constructor
  · rintro ⟨hstatus, hlength, hrange, h⟩
    cases h
    exact ⟨hstatus, hlength, rfl, hrange⟩
  · rintro ⟨hstatus, hlength, rfl, hrange⟩
    exact ⟨hstatus, hlength, hrange, rfl⟩

theorem parseCompleteReply_ok {status : Int} {output parsed : Bytes} {length : Nat} :
    parseCompleteReply status output length = .ok parsed ↔ status = 0 ∧ (0 < length ∧ length ≤ maxSecureBlobSize) ∧
      output.length = length ∧ output = parsed := by
  unfold parseCompleteReply requireSuccess
  rw [raiseIf_ok, raiseIf_ok, raiseIf_ok, not_not, not_not, not_not]
  exact and_congr_right fun _ => and_congr_right fun _ => and_congr_right fun _ => ⟨Except.ok.inj, congrArg _⟩

theorem parseConfirmReply_ok {status : Int} {output : Bytes} :
    parseConfirmReply status output = .ok () ↔ status = 0 ∧ output = [] := by
  unfold parseConfirmReply requireSuccess
  rw [raiseIf_ok, not_not]
  refine and_congr_right fun _ => ?_
  unfold raiseIf
  by_cases houtput : output = []
  · rw [if_neg (not_not.mpr houtput)]
    exact iff_of_true rfl houtput
  · rw [if_pos houtput]
    exact iff_of_false nofun houtput

/-- A prepared Catacomb was read and parsed, … -/
theorem prepares_iff (request : CatacombRequest) (hcapacity : request.outputCapacity = 4) {value : Object}
    {length : Nat} : Prepares value length ↔
      ∃ answer, readReply request value = .ok answer ∧ parsePrepareReply answer.1 answer.2 = .ok length := by
  constructor
  · rintro ⟨data, rfl, hlength, hdata, hrange⟩
    refine ⟨(0, data), readReply_zero.mpr ⟨by omega, .inl rfl⟩, parsePrepareReply_ok.mpr ⟨rfl, hlength, hdata, hrange⟩⟩
  · rintro ⟨⟨status, data⟩, hread, hparsed⟩
    obtain ⟨hstatus, hlength, hdata, hrange⟩ := parsePrepareReply_ok.mp hparsed
    obtain rfl : status = 0 := hstatus
    obtain ⟨-, hvalue | ⟨hzero, -⟩⟩ := readReply_zero.mp hread
    · exact ⟨data, hvalue, hlength, hdata, hrange⟩
    · omega

/-- … a completed one, … -/
theorem completes_iff (request : CatacombRequest) (hcapacity : 0 < request.outputCapacity)
    (hmax : request.outputCapacity ≤ maxSecureBlobSize) {value : Object} :
    Completes value request.outputCapacity ↔ ∃ answer parsed, readReply request value = .ok answer ∧
      parseCompleteReply answer.1 answer.2 request.outputCapacity = .ok parsed := by
  constructor
  · rintro ⟨data, rfl, hlength⟩
    exact ⟨(0, data), data, readReply_zero.mpr ⟨hlength.le, .inl rfl⟩,
      parseCompleteReply_ok.mpr ⟨rfl, ⟨hcapacity, hmax⟩, hlength, rfl⟩⟩
  · rintro ⟨⟨status, data⟩, parsed, hread, hparsed⟩
    obtain ⟨hstatus, -, hlength, -⟩ := parseCompleteReply_ok.mp hparsed
    obtain rfl : status = 0 := hstatus
    obtain ⟨-, hvalue | ⟨hzero, -⟩⟩ := readReply_zero.mp hread
    · exact ⟨data, hvalue, hlength⟩
    · omega

/-- … and a confirmed one. -/
theorem confirms_iff (request : CatacombRequest) (hcapacity : request.outputCapacity = 0) {value : Object} :
    Confirms value ↔
      ∃ answer, readReply request value = .ok answer ∧ parseConfirmReply answer.1 answer.2 = .ok () := by
  constructor
  · intro h
    refine ⟨(0, []), readReply_zero.mpr ⟨Nat.zero_le _, ?_⟩, parseConfirmReply_ok.mpr ⟨rfl, rfl⟩⟩
    rcases h with h | h
    · exact .inl h
    · exact .inr ⟨hcapacity, h⟩
  · rintro ⟨⟨status, data⟩, hread, hparsed⟩
    obtain ⟨hstatus, hdata⟩ := parseConfirmReply_ok.mp hparsed
    obtain rfl : status = 0 := hstatus
    obtain rfl : data = [] := hdata
    obtain ⟨-, hvalue | ⟨-, hvalue⟩⟩ := readReply_zero.mp hread
    · exact .inl hvalue
    · exact .inr hvalue

section Methods

variable {version : Nat} {pinned : PyStr} {self : CatacombBridgeTransport} {log : Log} {α β : Type}

theorem requireState_meets {expected : TransactionState} {operation : String}
    {ok : Unit → CatacombBridgeTransport → Log → Prop} {err : Raised → CatacombBridgeTransport → Log → Prop}
    (hok : self.state = expected → self.state ≠ .poisoned → ok () self log) (herr : ∀ error, err error self log) :
    Op.Logged (requireState expected operation) self log ok err := by
  unfold requireState
  refine .bind (.get (.bind (.lift ?_ fun error _ => herr error)))
  intro _ hpoisoned
  refine .lift ?_ fun error _ => herr error
  intro _ hstate
  refine hok ?_ ?_
  · by_contra hne
    rw [raiseIf, if_pos hne] at hstate
    cases hstate
  · intro heq
    rw [raiseIf, if_pos heq] at hpoisoned
    cases hpoisoned

theorem requireDescriptor_meets {descriptor : Bytes}
    {ok : Unit → CatacombBridgeTransport → Log → Prop} {err : Raised → CatacombBridgeTransport → Log → Prop}
    (hok : self.descriptor = some descriptor → ok () self log) (herr : ∀ error, err error self log) :
    Op.Logged (requireDescriptor descriptor) self log ok err := by
  unfold requireDescriptor
  refine .bind (.get (.lift ?_ fun error _ => herr error))
  intro _ h
  refine hok ?_
  by_contra hne
  rw [raiseIf, if_pos (Ne.symm hne)] at h
  cases h

/-- A dispatch leaves the variables alone, or the transport is poisoned. -/
theorem dispatch_meets {request : CatacombRequest} {ok : Int × Bytes → CatacombBridgeTransport → Log → Prop}
    {err : Raised → CatacombBridgeTransport → Log → Prop}
    (hok : ∀ value answer, readReply request value = .ok answer →
      ok answer self (log ++ exchanged self.connectionGeneration (.command (commandOf request)) value))
    (herr : ∀ more error, (Failed self.connectionGeneration (.command (commandOf request)) more ∨
        ∃ value, more = exchanged self.connectionGeneration (.command (commandOf request)) value ∧
          ∀ answer, readReply request value ≠ .ok answer) →
      err error { self with state := .poisoned } (log ++ more)) :
    Op.Logged (dispatch request) self log ok err := by
  -- the handler: the transport is poisoned, whatever was raised
  have hhandler : ∀ more error, (Failed self.connectionGeneration (.command (commandOf request)) more ∨
        ∃ value, more = exchanged self.connectionGeneration (.command (commandOf request)) value ∧
          ∀ answer, readReply request value ≠ .ok answer) →
      Op.Logged (dispatchFailed error) self (log ++ more) ok err := by
    intro more error hmore
    unfold dispatchFailed poison
    refine .bind (.bind (.get (.set ?_)))
    cases error with
    | own text => exact .raise (herr more _ hmore)
    | other => exact .raise (herr more _ hmore)
  unfold dispatch
  refine .except (.bind (.get (.bind (exchange_meets ?_ ?_))))
  · intro value
    refine .lift (fun answer h => hok value answer h) fun error h => ?_
    refine hhandler _ error (.inr ⟨value, rfl, fun answer hanswer => ?_⟩)
    rw [h] at hanswer
    exact nomatch hanswer
  · exact fun more error hmore => hhandler more error (.inl hmore)

/-- **A transaction's step**: the command in its order, its reply read and parsed, and then what a method does when
    the command went well. -/
theorem step_meets {request : CatacombRequest} {parse : Int × Bytes → Except String α} {text : String}
    {k : α → Code β} {ok : β → CatacombBridgeTransport → Log → Prop} (h : Kept version pinned self log)
    (hall : ∀ e ∈ log, Trusted pinned e) (hcommand : InOrder version (issued log).getLast? (commandOf request))
    (hsucceeded : ∀ value, Succeeded (commandOf request) value ↔
      ∃ answer a, readReply request value = .ok answer ∧ parse answer = .ok a)
    (hk : ∀ value a, (∃ answer, readReply request value = .ok answer ∧ parse answer = .ok a) →
      Ordered version pinned (log ++ exchanged pinned (.command (commandOf request)) value) →
      (∀ e ∈ log ++ exchanged pinned (.command (commandOf request)) value, Trusted pinned e) →
      Op.Logged (k a) self (log ++ exchanged pinned (.command (commandOf request)) value) ok
        fun _ self log => Kept version pinned self log) :
    Op.Logged (do
      let answer ← dispatch request
      let a ← poisoning text (parse answer)
      k a) self log ok fun _ self log => Kept version pinned self log := by
  obtain rfl := h.generation_eq
  have hpoisoned : ∀ more, (Failed self.connectionGeneration (.command (commandOf request)) more ∨
      ∃ value, more = exchanged self.connectionGeneration (.command (commandOf request)) value ∧
        ¬ Succeeded (commandOf request) value) →
      Kept version self.connectionGeneration { self with state := .poisoned } (log ++ more) := by
    intro more hmore
    have hordered := ordered_exchange h.toOrdered hall hcommand (hmore.imp_right (Exists.imp fun _ => And.left))
    refine { toOrdered := hordered, version_eq := h.version_eq, generation_eq := rfl, state := .inl ⟨rfl, ?_⟩ }
    rcases hmore with hmore | ⟨value, rfl, hnot⟩
    · obtain ⟨e, he, huntrusted⟩ := untrusted_of_failed hmore
      exact ⟨e, List.mem_append_right _ he, huntrusted⟩
    · refine ⟨⟨.request (.command (commandOf request)), .ok value⟩, List.mem_append_right _ (by simp [exchanged]), ?_⟩
      rintro ⟨_, ⟨⟩, hyes⟩
      exact hnot hyes
  refine .bind (dispatch_meets ?_ ?_)
  · intro value answer hread
    refine .bind ?_
    cases hparse : parse answer with
    | error error =>
      unfold poisoning poison
      refine .bind (.bind (.get (.set (.raise (hpoisoned _ (.inr ⟨value, rfl, ?_⟩))))))
      intro hyes
      obtain ⟨answer', a, hread', hparse'⟩ := (hsucceeded value).mp hyes
      rw [hread] at hread'
      rw [← Except.ok.inj hread', hparse] at hparse'
      cases hparse'
    | ok a =>
      have hyes := (hsucceeded value).mpr ⟨answer, a, hread, hparse⟩
      refine .pure (hk value a ⟨answer, hread, hparse⟩ ?_ ?_)
      · exact ordered_exchange h.toOrdered hall hcommand (.inr ⟨value, rfl⟩)
      · intro e he
        rcases List.mem_append.mp he with he | he
        · exact hall e he
        · simp only [exchanged, List.mem_cons, List.not_mem_nil, or_false] at he
          rcases he with rfl | rfl | rfl
          · rfl
          · exact ⟨value, rfl, hyes⟩
          · rfl
  · rintro more error (hmore | ⟨value, rfl, hunread⟩)
    · exact hpoisoned more (.inl hmore)
    · refine hpoisoned _ (.inr ⟨value, rfl, fun hyes => ?_⟩)
      obtain ⟨answer, a, hread, -⟩ := (hsucceeded value).mp hyes
      exact hunread answer hread

theorem request_ok {command protocolVersion outputCapacity : Nat} {descriptor : Bytes} {request : CatacombRequest}
    (h : CatacombRequest.make command protocolVersion descriptor outputCapacity = .ok request) :
    request = ⟨command, protocolVersion, descriptor, outputCapacity⟩ := by
  unfold CatacombRequest.make at h
  obtain ⟨-, -, h⟩ := bind_ok h
  obtain ⟨-, h⟩ := raiseIf_ok.mp h
  obtain ⟨-, h⟩ := raiseIf_ok.mp h
  obtain ⟨-, h⟩ := raiseIf_ok.mp h
  obtain ⟨-, h⟩ := raiseIf_ok.mp h
  obtain ⟨-, h⟩ := raiseIf_ok.mp h
  exact (Except.ok.inj h).symm

/-- What a method must keep, however it ends. -/
def Keeps (version : Nat) (pinned : PyStr) (self : CatacombBridgeTransport) (log : Log) (method : Code α) : Prop :=
  Op.Logged method self log (fun _ self log => Kept version pinned self log)
    fun _ self log => Kept version pinned self log

/-- The last command of a log that ends with an exchange. -/
theorem getLast?_exchanged (log : Log) (pinned : PyStr) (command : Command) (value : Object) :
    (issued (log ++ exchanged pinned (.command command) value)).getLast? = some (command, .ok value) := by
  rw [issued_append, issued_exchanged, List.getLast?_append_of_ne_nil _ (List.cons_ne_nil _ _)]
  rfl

theorem keeps_prepare (h : Kept version pinned self log) (descriptor : Bytes) :
    Keeps version pinned self log (prepare descriptor) := by
  unfold Keeps prepare
  refine .bind (requireState_meets (fun hidle hne => ?_) fun _ => h)
  obtain ⟨hpoisoned, -⟩ | ⟨hall, hremembers⟩ := h.state
  · exact absurd hpoisoned hne
  obtain rfl := h.version_eq
  refine .bind (.get (.bind (.lift (fun request hrequest => ?_) fun _ _ => h)))
  obtain rfl := request_ok (mapError_ok.mp hrequest)
  refine step_meets h hall ?_ ?_ ?_
  · exact inOrder_idle (hidle ▸ hremembers) descriptor
  · intro value
    constructor
    · intro hyes
      obtain ⟨length, hlength⟩ := hyes.prepares rfl
      obtain ⟨answer, hparsed⟩ := (prepares_iff ⟨_, _, _, _⟩ rfl).mp hlength
      exact ⟨answer, length, hparsed⟩
    · rintro ⟨answer, length, hread, hparse⟩
      exact ⟨fun _ => ⟨length, (prepares_iff _ rfl).mpr ⟨answer, hread, hparse⟩⟩, nofun, nofun⟩
  · rintro value length hread hordered htrusted
    refine .bind (.get (.bind (.set (.pure ?_))))
    refine { toOrdered := hordered, version_eq := rfl, generation_eq := h.generation_eq,
             state := .inr ⟨htrusted, ?_⟩ }
    rw [getLast?_exchanged]
    exact .prepared descriptor ((prepares_iff _ rfl).mpr hread)

theorem keeps_complete (h : Kept version pinned self log) (descriptor : Bytes) :
    Keeps version pinned self log (complete descriptor) := by
  unfold Keeps complete
  refine .bind (requireState_meets (fun hprepared hne => ?_) fun _ => h)
  obtain ⟨hpoisoned, -⟩ | ⟨hall, hremembers⟩ := h.state
  · exact absurd hpoisoned hne
  obtain rfl := h.version_eq
  refine .bind (requireDescriptor_meets (fun hdescriptor => ?_) fun _ => h)
  refine .bind (.get (.bind (.lift (fun length hlength => ?_) fun _ _ => h)))
  refine .bind (.lift (fun request hrequest => ?_) fun _ _ => h)
  -- the prepared length is in its range, or there is no request
  obtain ⟨hrange, hrequest⟩ := raiseIf_ok.mp (mapError_ok.mp hrequest)
  obtain ⟨hpositive, hmax⟩ := not_not.mp hrange
  obtain rfl := request_ok hrequest
  have hexpected : self.expectedLength = some length := by
    cases hself : self.expectedLength with
    | none =>
      rw [hself] at hlength
      exact nomatch hlength
    | some other =>
      rw [hself] at hlength
      rw [Except.ok.inj hlength]
  rw [hprepared, hdescriptor, hexpected] at hremembers
  refine step_meets h hall ?_ ?_ ?_
  · exact inOrder_prepared hremembers
  · intro value
    constructor
    · intro hyes
      obtain ⟨answer, parsed, hread, hparse⟩ := (completes_iff ⟨_, _, _, _⟩ hpositive hmax).mp (hyes.completes rfl)
      exact ⟨answer, parsed, hread, hparse⟩
    · rintro ⟨answer, parsed, hread, hparse⟩
      exact ⟨nofun, fun _ => (completes_iff ⟨_, _, _, _⟩ hpositive hmax).mpr ⟨answer, parsed, hread, hparse⟩, nofun⟩
  · rintro value parsed hread hordered htrusted
    refine .bind (.get (.bind (.set (.pure ?_))))
    refine { toOrdered := hordered, version_eq := rfl, generation_eq := h.generation_eq,
             state := .inr ⟨htrusted, ?_⟩ }
    rw [getLast?_exchanged]
    show Remembers self.protocolVersion .completed self.descriptor self.expectedLength _
    rw [hdescriptor, hexpected]
    exact .completed descriptor length _

theorem keeps_confirm (h : Kept version pinned self log) (descriptor : Bytes) :
    Keeps version pinned self log (confirm descriptor) := by
  unfold Keeps confirm
  refine .bind (requireState_meets (fun hcompleted hne => ?_) fun _ => h)
  obtain ⟨hpoisoned, -⟩ | ⟨hall, hremembers⟩ := h.state
  · exact absurd hpoisoned hne
  obtain rfl := h.version_eq
  refine .bind (requireDescriptor_meets (fun hdescriptor => ?_) fun _ => h)
  refine .bind (.get (.bind (.lift (fun request hrequest => ?_) fun _ _ => h)))
  obtain rfl := request_ok (mapError_ok.mp hrequest)
  rw [hcompleted, hdescriptor] at hremembers
  refine step_meets h hall ?_ ?_ ?_
  · exact inOrder_completed hremembers
  · intro value
    constructor
    · intro hyes
      obtain ⟨answer, hread, hparse⟩ := (confirms_iff ⟨_, _, _, _⟩ rfl).mp (hyes.confirms rfl)
      exact ⟨answer, (), hread, hparse⟩
    · rintro ⟨answer, ⟨⟩, hread, hparse⟩
      exact ⟨nofun, nofun, fun _ => (confirms_iff ⟨_, _, _, _⟩ rfl).mpr ⟨answer, hread, hparse⟩⟩
  · rintro value - hread hordered htrusted
    refine .bind (.get (.set ?_))
    refine { toOrdered := hordered, version_eq := rfl, generation_eq := h.generation_eq,
             state := .inr ⟨htrusted, ?_⟩ }
    rw [getLast?_exchanged]
    exact .idle descriptor _

/-- **One call** keeps the invariant. -/
theorem keeps_perform (h : Kept version pinned self log) (call : Call) :
    Keeps version pinned self log (perform call) := by
  cases call with
  | prepare descriptor => exact .seq (keeps_prepare h descriptor) fun _ _ _ hkept => .pure hkept
  | complete descriptor => exact .seq (keeps_complete h descriptor) fun _ _ _ hkept => .pure hkept
  | confirm descriptor => exact .seq (keeps_confirm h descriptor) fun _ _ _ hkept => .pure hkept

end Methods

/-! ## Result -/

/-- Calls of the methods of one transport, whose lease replies as it likes. -/
def play (replier : Log → (q : Question) → Reply q) (version : Nat) (pinned : PyStr) (calls : List Call) :
    Log × Outcome Raised (List (Except Raised Answer)) × CatacombBridgeTransport :=
  (Op.session perform calls (init version pinned)).play replier []

/-- **The order of a transaction.**  Whatever is called and whatever the lease replies: a transport is poisoned where
    something was not to be trusted, there is no command behind it, and each command follows its predecessor, with its
    descriptor and the prepared length. -/
theorem transaction_order (replier : Log → (q : Question) → Reply q) (version : Nat) (pinned : PyStr)
    (calls : List Call) :
    let log := (play replier version pinned calls).1
    let transport := (play replier version pinned calls).2.2
    (transport.state = .poisoned ↔ ∃ e ∈ log, ¬ Trusted pinned e) ∧
      Silent (Trusted pinned) log ∧
      Every (fun before one => InOrder version before.getLast? one.1) (issued log) := by
  have hsession : Op.Logged (Op.session perform calls : Op Question Reply _ Raised _)
      (init version pinned) [] (fun _ self log => Kept version pinned self log) fun _ _ _ => False :=
    .session (I := fun _ self log => Kept version pinned self log)
      (fun call _ self log hkept => keeps_perform hkept call) calls (kept_init version pinned)
  obtain ⟨answers, -, hkept⟩ | ⟨_, -, hnever⟩ := hsession.played replier
  · refine ⟨⟨fun hpoisoned => ?_, ?_⟩, hkept.silent, hkept.order⟩
    · obtain ⟨-, hfault⟩ | ⟨-, hremembers⟩ := hkept.state
      · exact hfault
      · exact absurd hpoisoned hremembers.not_poisoned
    · rintro ⟨e, he, huntrusted⟩
      obtain ⟨hpoisoned, -⟩ | ⟨hall, -⟩ := hkept.state
      · exact hpoisoned
      · exact absurd (hall e he) huntrusted
  · exact hnever.elim

/-- A Catacomb of three bytes is saved, and the transport is ready for another one. -/
example : (play (fun
    | _, .generation => .ok []
    | _, .request (.command ⟨0x3D, _, _, _⟩) => .ok (succeeded (.bytes [3, 0, 0, 0]))
    | _, .request (.command ⟨0x3E, _, _, _⟩) => .ok (succeeded (.bytes [7, 8, 9]))
    | _, .request _ => .ok (succeeded (.bytes []))) 1 []
    [.prepare [1, 0, 0, 0], .complete [1, 0, 0, 0], .confirm [1, 0, 0, 0]]).2.2 = init 1 [] := by decide

end CatacombBridgeTransport

end T2TouchId.Bridge
