/-
  The enrolment adapter (`EnrollmentBridgeTransport` in `src/t2_enrollment_bridge.py`).

  Problem: one enrolment is started, continued and perhaps cancelled, and its events come with the replies of the
  commands and by themselves.  They wait in a queue until the caller asks for them.

  1. **The code** — `dispatch`, `start`, `continueEnrollment`, `cancel` and `nextEvent`.
  2. **What is expected** — `Replied`: a result that is well formed.  `Trusted`: what the adapter goes on behind.
     `InOrder`: one start, and then continuations until a cancellation.  `delivered`: the events in a log.
  3. **The invariant (`Kept`)** — what was returned and what waits is what was delivered; one lemma for each method.
  4. **Result** — `enrollment_order`, for every caller and every lease, and `adapters_in_order` for both adapters.
-/
import T2TouchId.Bridge.CatacombOrder
import T2TouchId.Enrollment.Protocol
import T2TouchId.Raising

namespace T2TouchId.Bridge

open T2TouchId.Python T2TouchId.Calls T2TouchId.User
open T2TouchId.Enrollment (serviceHeaderSize maxEventPayload)

/-! ## The code -/

def commandEnrollStart : Nat := 0x03
def commandCancel : Nat := 0x0C
def commandEnrollContinue : Nat := 0x0E
def payloadlessCommandVersion : Nat := 1
def bridgeServiceStatus : Int := 0xE3FF8000

inductive EnrollmentBridgeState
  | idle
  | active
  | cancelRequested
  | startRejected
  | poisoned
  deriving DecidableEq

structure EnrollmentBridgeTransport where
  protocolVersion : Nat
  connectionGeneration : PyStr
  state : EnrollmentBridgeState
  events : List Bytes
  deriving DecidableEq

/-- A `memoryview`. -/
structure MemoryView where
  ndim : Nat
  itemsize : Nat
  readonly : Bool
  data : Bytes
  deriving DecidableEq

/-- `_event_data`. -/
def eventData (value : Object) : Except Raised Bytes :=
  match value with
  | .list [kind, service, data, _, _] => do
    let other ← kind.ne 9
    raiseIf (other = true) (.own "Bridge service event is malformed")
    let other ← service.ne bridgeServiceStatus
    raiseIf (other = true) (.own "Bridge service event is malformed")
    match data with
    | .bytes data =>
      if serviceHeaderSize ≤ data.length ∧ data.length ≤ serviceHeaderSize + maxEventPayload then .ok data
      else .error (.own "Bridge service event is malformed")
    | _ => .error (.own "Bridge service event is malformed")
  | _ => .error (.own "Bridge service event is malformed")

namespace EnrollmentBridgeTransport

/-- A new transport. -/
def init (protocolVersion : Nat) (connectionGeneration : PyStr) : EnrollmentBridgeTransport :=
  ⟨protocolVersion, connectionGeneration, .idle, []⟩

abbrev Code (α : Type) : Type := Adapter EnrollmentBridgeTransport α

/-- `_poison`. -/
def poison : Code Unit := do
  let self ← Op.get
  Op.set { self with state := .poisoned, events := [] }

/-- `_require_state`. -/
def requireState (allowed : List EnrollmentBridgeState) (operation : String) : Code Unit := do
  let self ← Op.get
  Op.lift (raiseIf (self.state = .poisoned)
    (.own "enrollment Bridge generation is poisoned; reconciliation is required"))
  Op.lift (raiseIf (self.state ∉ allowed) (.own s!"enrollment {operation} is out of order"))

/-- `reply, events = result`. -/
def resultParts (result : Object) : Except Raised (Object × Object) :=
  match result with
  | .tuple [reply, events] => .ok (reply, events)
  | _ => .error (.own "Bridge command result is malformed")

/-- The status and the output of a reply. -/
def replyParts (reply : Object) : Except Raised (Object × Object) :=
  match reply with
  | .list [status] => .ok (status, .none)
  | .list [status, output] => .ok (status, output)
  | _ => .error (.own "Bridge command reply is malformed")

def statusOf (status : Object) : Except Raised Int :=
  match status with
  | .int status =>
    if -(2 ^ 31) ≤ status ∧ status < 2 ^ 32 then .ok status
    else .error (.own "Bridge command status is malformed")
  | _ => .error (.own "Bridge command status is malformed")

/-- `empty_output`. -/
def emptyOutput (output : Object) : Bool :=
  match output with
  | .none => true
  | .bytes data => data.length = 0
  | output => isBiometricNilOutput output

def eventsOf (events : Object) : Except Raised (List Object) :=
  match events with
  | .list events => .ok events
  | _ => .error (.own "Bridge command events are malformed")

/-- What `_dispatch` takes out of the result of a command: the status and `staged_events`. -/
def readReply (statusAuthoritative : Bool) (result : Object) : Except Raised (Int × List Bytes) := do
  let parts ← resultParts result
  let reply ← replyParts parts.1
  let status ← statusOf reply.1
  raiseIf (emptyOutput reply.2 = false) (.own "enrollment command returned unexpected data")
  let events ← eventsOf parts.2
  let stagedEvents ← events.mapM eventData
  raiseIf (statusAuthoritative = true ∧ status ≠ 0 ∧ stagedEvents ≠ [])
    (.own "rejected enrollment command also emitted service events")
  return (status, stagedEvents)

/-- How a dispatch or a wait ends with an error. -/
def failed {α : Type} (text : String) (error : Raised) : Code α := do
  poison
  match error with
  | .own own => Op.raise (.own own)
  | .other => Op.raise (.own text)

/-- `if …: self._poison()`. -/
def poisonIf (p : Prop) [Decidable p] : Code Unit := if p then poison else pure ()

/-- `_dispatch`. -/
def dispatch (command : Nat) (data : Bytes) (poisonNonzero statusAuthoritative : Bool) (wireVersion : Option Nat) :
    Code Int := do
  let self ← Op.get
  let selectedVersion := wireVersion.getD self.protocolVersion
  Op.lift (raiseIf (selectedVersion ≠ 1 ∧ selectedVersion ≠ 2)
    (.own "enrollment command wire version is invalid"))
  Op.except (do
    let result ← exchange self.connectionGeneration (.command ⟨command, selectedVersion, data, 0⟩)
    let answer ← Op.lift (readReply statusAuthoritative result)
    let self ← Op.get
    Op.set { self with events := self.events ++ answer.2 }
    poisonIf (statusAuthoritative = true ∧ answer.1 ≠ 0 ∧ poisonNonzero = true)
    return answer.1)
    (failed "enrollment Bridge dispatch failed; reconciliation is required")

/-- `start`. -/
def start (payload : MemoryView) : Code Int := do
  requireState [.idle] "start"
  let self ← Op.get
  let expectedLength := if self.protocolVersion = 1 then 48 else 68
  Op.lift (raiseIf (payload.ndim ≠ 1 ∨ payload.itemsize ≠ 1 ∨ payload.data.length ≠ expectedLength ∨
    payload.readonly = false) (.own "enrollment start payload is invalid"))
  let status ← dispatch commandEnrollStart payload.data false true none
  let self ← Op.get
  Op.set { self with state := if status = 0 then .active else .startRejected }
  return status

/-- `continue_enrollment`. -/
def continueEnrollment : Code Int := do
  requireState [.active] "continue"
  dispatch commandEnrollContinue [] false false (some payloadlessCommandVersion)

/-- `cancel`. -/
def cancel : Code Int := do
  requireState [.active] "cancel"
  let status ← dispatch commandCancel [] true true (some payloadlessCommandVersion)
  let self ← Op.get
  Op.set { self with state := if status = 0 then .cancelRequested else self.state }
  return status

/-- The timeout of `next_event`, `none` for what is no finite number. -/
def checkTimeout (timeout : Option Rat) : Except Raised Rat :=
  match timeout with
  | some timeout =>
    if 0 < timeout ∧ timeout ≤ 5 then .ok timeout
    else .error (.own "enrollment event poll timeout is invalid")
  | none => .error (.own "enrollment event poll timeout is invalid")

/-- What came of a wait. -/
def received (value : Object) : Except Raised (Option Bytes) :=
  match value with
  | .none => .ok none
  | value => (eventData value).map some

/-- `next_event`. -/
def nextEvent (timeout : Option Rat) : Code (Option Bytes) := do
  requireState [.active, .cancelRequested] "event receive"
  let timeout ← Op.lift (checkTimeout timeout)
  let self ← Op.get
  match self.events with
  | data :: events => do
    Op.set { self with events := events }
    return some data
  | [] =>
    Op.except (do
      let value ← exchange self.connectionGeneration (.wait timeout)
      Op.lift (received value))
      (failed "enrollment service-event receive failed; reconciliation is required")

/-- A call of one of the methods. -/
inductive Call
  | start (payload : MemoryView)
  | continueEnrollment
  | cancel
  | nextEvent (timeout : Option Rat)

/-- What it returns. -/
inductive Answer
  | status (status : Int)
  | event (event : Option Bytes)
  deriving DecidableEq

def perform : Call → Code Answer
  | .start payload => do
    let status ← start payload
    return .status status
  | .continueEnrollment => do
    let status ← continueEnrollment
    return .status status
  | .cancel => do
    let status ← cancel
    return .status status
  | .nextEvent timeout => do
    let event ← nextEvent timeout
    return .event event

/-! ## What is expected -/

/-- A service event with these bytes. -/
def IsEvent (value : Object) (data : Bytes) : Prop :=
  ∃ kind service detail origin : Object, value = .list [kind, service, .bytes data, detail, origin] ∧
    kind.ne 9 = .ok false ∧ service.ne bridgeServiceStatus = .ok false ∧
    serviceHeaderSize ≤ data.length ∧ data.length ≤ serviceHeaderSize + maxEventPayload

/-- The outputs of a command that has none. -/
inductive NoOutput : List Object → Prop
  | omitted : NoOutput []
  | null : NoOutput [.none]
  | empty : NoOutput [.bytes []]
  | sentinel : NoOutput [.str biometricNilOutputSentinel]

/-- A result that is well formed, with its status and the bytes of its events. -/
def Replied (value : Object) (status : Int) (events : List Bytes) : Prop :=
  ∃ output items : List Object, value = .tuple [.list (.int status :: output), .list items] ∧
    (-(2 ^ 31) ≤ status ∧ status < 2 ^ 32) ∧ NoOutput output ∧ List.Forall₂ IsEvent items events

/-- What the adapter goes on behind: a refused command has no events, unless it is a continuation, and a cancellation is
    not refused. -/
def Succeeded (command : Command) (value : Object) : Prop :=
  ∃ status events, Replied value status events ∧
    (command.command ≠ commandEnrollContinue → status ≠ 0 → events = []) ∧
    (command.command = commandCancel → status = 0)

/-- Nothing raised, the generation is the same, and what came is as it should be. -/
def Trusted (pinned : PyStr) : Exchange Question Reply → Prop
  | ⟨.generation, reply⟩ => reply = .ok pinned
  | ⟨.request (.command command), reply⟩ => ∃ value, reply = .ok value ∧ Succeeded command value
  | ⟨.request (.wait _), reply⟩ => ∃ value, reply = .ok value ∧ (value = .none ∨ ∃ data, IsEvent value data)

/-- The enrolment is active: it was started, the start was not refused, and it was only continued. -/
def Active (before : List Issued) : Prop :=
  ∃ command value events rest, before = (command, .ok value) :: rest ∧ command.command = commandEnrollStart ∧
    Replied value 0 events ∧ ∀ one ∈ rest, one.1.command = commandEnrollContinue

/-- What may be given behind these commands: a start behind none, a continuation and a cancellation while the
    enrolment is active. -/
inductive InOrder : List Issued → Command → Prop
  | start {command : Command} (h : command.command = commandEnrollStart) : InOrder [] command
  | continueEnrollment {before : List Issued} {command : Command} (hactive : Active before)
      (h : command.command = commandEnrollContinue) : InOrder before command
  | cancel {before : List Issued} {command : Command} (hactive : Active before)
      (h : command.command = commandCancel) : InOrder before command

/-- The events in a reply or in what a wait brought. -/
def deliveredOf : Exchange Question Reply → List Object
  | ⟨.request (.command _), .ok (.tuple [_, .list items])⟩ => items
  | ⟨.request (.wait _), .ok .none⟩ => []
  | ⟨.request (.wait _), .ok value⟩ => [value]
  | _ => []

/-- The events of a log, as they came. -/
def delivered (log : Log) : List Object := log.flatMap deliveredOf

/-- The event of an answer. -/
def eventOf : Except Raised Answer → List Bytes
  | .ok (.event (some data)) => [data]
  | _ => []

/-- The events that were returned, in their order. -/
def returned (answers : List (Except Raised Answer)) : List Bytes := answers.flatMap eventOf

/-! ## The invariant -/

/-- The state tells what was commanded. -/
inductive Remembers : EnrollmentBridgeState → List Issued → Prop
  | idle : Remembers .idle []
  | active {before : List Issued} (h : Active before) : Remembers .active before
  | cancelRequested (commands : List Issued) : Remembers .cancelRequested commands
  | startRejected (commands : List Issued) : Remembers .startRejected commands

structure Ordered (pinned : PyStr) (log : Log) : Prop where
  order : Every (fun before one => InOrder before one.1) (issued log)
  silent : Silent (Trusted pinned) log

/-- The invariant, with the events that were returned. -/
structure Kept (pinned : PyStr) (events : List Bytes) (transport : EnrollmentBridgeTransport) (log : Log) : Prop
    extends Ordered pinned log where
  generation_eq : transport.connectionGeneration = pinned
  state : (transport.state = .poisoned ∧ ∃ e ∈ log, ¬ Trusted pinned e) ∨
    ((∀ e ∈ log, Trusted pinned e) ∧ Remembers transport.state (issued log) ∧
      List.Forall₂ IsEvent (delivered log) (events ++ transport.events))

theorem kept_init (version : Nat) (pinned : PyStr) : Kept pinned [] (init version pinned) [] where
  order := every_nil _
  silent := silent_nil
  generation_eq := rfl
  state := .inr ⟨nofun, .idle, .nil⟩

/-! ## What is read -/

theorem eventData_ok {value : Object} {data : Bytes} : eventData value = .ok data ↔ IsEvent value data := by
  constructor
  · intro h
    unfold eventData at h
    split at h
    · obtain ⟨kindOther, hkind, h⟩ := bind_ok h
      obtain ⟨hkindOther, h⟩ := raiseIf_ok.mp h
      obtain ⟨serviceOther, hservice, h⟩ := bind_ok h
      obtain ⟨hserviceOther, h⟩ := raiseIf_ok.mp h
      rw [Bool.not_eq_true] at hkindOther hserviceOther
      subst hkindOther hserviceOther
      split at h
      · split at h
        · rename_i hlength
          cases h
          exact ⟨_, _, _, _, rfl, hkind, hservice, hlength⟩
        · exact nomatch h
      · exact nomatch h
    · exact nomatch h
  · rintro ⟨kind, service, detail, origin, rfl, hkind, hservice, hlength⟩
    refine bind_eq_ok.mpr ⟨false, hkind, raiseIf_ok.mpr ⟨Bool.false_ne_true, ?_⟩⟩
    exact bind_eq_ok.mpr ⟨false, hservice, raiseIf_ok.mpr ⟨Bool.false_ne_true, if_pos hlength⟩⟩

theorem emptyOutput_iff {output : Object} : emptyOutput output = true ↔ NoOutput [output] := by
  constructor
  · intro h
    unfold emptyOutput at h
    split at h
    · exact .null
    · rename_i data
      obtain rfl := List.eq_nil_of_length_eq_zero (of_decide_eq_true h)
      exact .empty
    · rw [isBiometricNilOutput_iff.mp h]
      exact .sentinel
  · intro h
    cases h with
    | null => rfl
    | empty => rfl
    | sentinel => exact isBiometricNilOutput_iff.mpr rfl

/-- The two shapes of a reply. -/
theorem replyParts_ok {reply status output : Object} (h : replyParts reply = .ok (status, output)) :
    (reply = .list [status] ∧ output = .none) ∨ reply = .list [status, output] := by
  unfold replyParts at h
  split at h
  · obtain ⟨rfl, rfl⟩ := Prod.mk.inj (Except.ok.inj h)
    exact .inl ⟨rfl, rfl⟩
  · obtain ⟨rfl, rfl⟩ := Prod.mk.inj (Except.ok.inj h)
    exact .inr rfl
  · exact nomatch h

/-- What `_dispatch` goes on with. -/
theorem readReply_ok {statusAuthoritative : Bool} {value : Object} {status : Int} {events : List Bytes} :
    readReply statusAuthoritative value = .ok (status, events) ↔
      Replied value status events ∧ (statusAuthoritative = true → status ≠ 0 → events = []) := by
  constructor
  · intro h
    unfold readReply at h
    obtain ⟨⟨reply, items⟩, hparts, h⟩ := bind_ok h
    obtain ⟨⟨first, output⟩, hreply, h⟩ := bind_ok h
    obtain ⟨number, hstatus, h⟩ := bind_ok h
    obtain ⟨hempty, h⟩ := raiseIf_ok.mp h
    obtain ⟨list, hitems, h⟩ := bind_ok h
    obtain ⟨staged, hstaged, h⟩ := bind_ok h
    obtain ⟨hrefused, h⟩ := raiseIf_ok.mp h
    obtain ⟨rfl, rfl⟩ := Prod.mk.inj (Except.ok.inj h)
    refine ⟨?_, fun hauthoritative hnonzero => by_contra fun hevents => hrefused ⟨hauthoritative, hnonzero, hevents⟩⟩
    -- the tuple, the reply in it, the status in that
    have hvalue : value = .tuple [reply, items] := by
      unfold resultParts at hparts
      split at hparts
      · obtain ⟨rfl, rfl⟩ := Prod.mk.inj (Except.ok.inj hparts)
        rfl
      · exact nomatch hparts
    have hlist : items = .list list := by
      change eventsOf items = .ok list at hitems
      unfold eventsOf at hitems
      split at hitems
      · rw [Except.ok.inj hitems]
      · exact nomatch hitems
    have hfirst : first = .int number ∧ -(2 ^ 31) ≤ number ∧ number < 2 ^ 32 := by
      change statusOf first = .ok number at hstatus
      unfold statusOf at hstatus
      split at hstatus
      · split at hstatus
        · rename_i hrange
          obtain rfl := Except.ok.inj hstatus
          exact ⟨rfl, hrange⟩
        · exact nomatch hstatus
      · exact nomatch hstatus
    have hnone : NoOutput [output] := emptyOutput_iff.mp (Bool.not_eq_false _ ▸ hempty)
    have hevents : List.Forall₂ IsEvent list staged :=
      (mapM_eq_ok.mp hstaged).imp fun _ _ h => eventData_ok.mp h
    obtain ⟨rfl, hrange⟩ := hfirst
    subst hvalue hlist
    rcases replyParts_ok hreply with ⟨rfl, -⟩ | rfl
    · exact ⟨[], list, rfl, hrange, .omitted, hevents⟩
    · exact ⟨[output], list, rfl, hrange, hnone, hevents⟩
  · rintro ⟨⟨output, items, rfl, hrange, hnone, hevents⟩, hrefused⟩
    have hreply : ∃ last, replyParts (.list (.int status :: output)) = .ok (.int status, last) ∧
        emptyOutput last = true := by
      cases hnone with
      | omitted => exact ⟨.none, rfl, rfl⟩
      | null => exact ⟨.none, rfl, rfl⟩
      | empty => exact ⟨.bytes [], rfl, rfl⟩
      | sentinel => exact ⟨_, rfl, emptyOutput_iff.mpr .sentinel⟩
    obtain ⟨last, hparts, hempty⟩ := hreply
    refine bind_eq_ok.mpr ⟨(.list (.int status :: output), .list items), rfl, ?_⟩
    refine bind_eq_ok.mpr ⟨(.int status, last), hparts, bind_eq_ok.mpr ⟨status, if_pos hrange, ?_⟩⟩
    refine raiseIf_ok.mpr ⟨by rw [hempty]; exact Bool.true_eq_false.mp, bind_eq_ok.mpr ⟨items, rfl, ?_⟩⟩
    refine bind_eq_ok.mpr ⟨events, mapM_eq_ok.mpr (hevents.imp fun _ _ h => eventData_ok.mpr h), ?_⟩
    refine raiseIf_ok.mpr ⟨?_, rfl⟩
    rintro ⟨hauthoritative, hnonzero, hne⟩
    exact hne (hrefused hauthoritative hnonzero)

/-! ## What a method keeps -/

section Exchange

variable {pinned : PyStr} {log more : Log} {asked : Request}

theorem trusted_exchanged (hall : ∀ e ∈ log, Trusted pinned e) {value : Object}
    (hvalue : Trusted pinned ⟨.request asked, .ok value⟩) :
    ∀ e ∈ log ++ exchanged pinned asked value, Trusted pinned e := by
  intro e he
  rcases List.mem_append.mp he with he | he
  · exact hall e he
  · simp only [exchanged, List.mem_cons, List.not_mem_nil, or_false] at he
    rcases he with rfl | rfl | rfl
    · rfl
    · exact hvalue
    · rfl

/-- An exchange that failed is not to be trusted. -/
theorem untrusted_of_failed (h : Failed pinned asked more) : ∃ e ∈ more, ¬ Trusted pinned e := by
  cases h with
  | before hne => exact ⟨_, List.mem_singleton_self _, hne⟩
  | raised error =>
    refine ⟨⟨.request asked, .error error⟩, by simp, ?_⟩
    cases asked with
    | command command =>
      rintro ⟨value, hvalue, -⟩
      exact nomatch hvalue
    | wait timeout =>
      rintro ⟨value, hvalue, -⟩
      exact nomatch hvalue
  | @behind reply value hne => exact ⟨⟨.generation, reply⟩, by simp, hne⟩

/-- A command in its order, whatever comes of it. -/
theorem ordered_command {command : Command} (h : Ordered pinned log) (hall : ∀ e ∈ log, Trusted pinned e)
    (hcommand : InOrder (issued log) command)
    (hmore : Failed pinned (.command command) more ∨ ∃ value, more = exchanged pinned (.command command) value) :
    Ordered pinned (log ++ more) := by
  refine ⟨?_, h.silent.exchange hall rfl hmore⟩
  rw [issued_append]
  rcases hmore with hmore | ⟨value, rfl⟩
  · cases hmore with
    | before hne =>
      rw [show issued [(⟨.generation, _⟩ : Exchange Question Reply)] = [] from rfl, List.append_nil]
      exact h.order
    | raised error => exact every_concat.mpr ⟨h.order, hcommand⟩
    | behind value hne => exact every_concat.mpr ⟨h.order, hcommand⟩
  · exact every_concat.mpr ⟨h.order, hcommand⟩

/-- A wait gives no command. -/
theorem issued_wait {timeout : Rat}
    (hmore : Failed pinned (.wait timeout) more ∨ ∃ value, more = exchanged pinned (.wait timeout) value) :
    issued more = [] := by
  rcases hmore with hmore | ⟨value, rfl⟩
  · cases hmore <;> rfl
  · rfl

theorem ordered_wait {timeout : Rat} (h : Ordered pinned log) (hall : ∀ e ∈ log, Trusted pinned e)
    (hmore : Failed pinned (.wait timeout) more ∨ ∃ value, more = exchanged pinned (.wait timeout) value) :
    Ordered pinned (log ++ more) := by
  refine ⟨?_, h.silent.exchange hall rfl hmore⟩
  rw [issued_append, issued_wait hmore, List.append_nil]
  exact h.order

theorem delivered_append (log more : Log) : delivered (log ++ more) = delivered log ++ delivered more :=
  List.flatMap_append

/-- The events of a reply. -/
theorem delivered_replied {command : Command} {value : Object} {status : Int} {events : List Bytes}
    (h : Replied value status events) :
    List.Forall₂ IsEvent (delivered (exchanged pinned (.command command) value)) events := by
  obtain ⟨output, items, rfl, -, -, hevents⟩ := h
  have hdelivered : delivered (exchanged pinned (.command command)
      (.tuple [.list (.int status :: output), .list items])) = items ++ [] := rfl
  rwa [hdelivered, List.append_nil]

end Exchange

/-- A result has one status. -/
theorem replied_status {value : Object} {status status' : Int} {events events' : List Bytes}
    (h : Replied value status events) (h' : Replied value status' events') : status = status' := by
  obtain ⟨output, items, rfl, -⟩ := h
  obtain ⟨output', items', hvalue, -⟩ := h'
  injection hvalue with hvalue
  injection hvalue with hreply
  injection hreply with hreply
  injection hreply with hstatus
  exact Object.int.inj hstatus

/-- What came of a wait is its event, if there was one. -/
theorem received_event {value : Object} {data : Bytes} (h : IsEvent value data) :
    received value = .ok (some data) := by
  have hdata := eventData_ok.mpr h
  obtain ⟨kind, service, detail, origin, rfl, -⟩ := h
  show (eventData _).map some = _
  rw [hdata]
  rfl

theorem received_ok {timeout : Rat} {pinned : PyStr} {value : Object} {event : Option Bytes}
    (h : received value = .ok event) :
    List.Forall₂ IsEvent (delivered (exchanged pinned (.wait timeout) value)) event.toList ∧
      (value = .none ∨ ∃ data, IsEvent value data) := by
  unfold received at h
  split at h
  · cases h
    exact ⟨.nil, .inl rfl⟩
  · cases hdata : eventData value with
    | error error =>
      rw [hdata] at h
      exact nomatch h
    | ok data =>
      rw [hdata] at h
      obtain rfl := Except.ok.inj h
      have hevent := eventData_ok.mp hdata
      refine ⟨?_, .inr ⟨data, hevent⟩⟩
      obtain ⟨kind, service, detail, origin, rfl, hrest⟩ := hevent
      exact .cons ⟨kind, service, detail, origin, rfl, hrest⟩ .nil

theorem remembers_idle {before : List Issued} (h : Remembers .idle before) : before = [] := by
  cases h
  rfl

theorem not_poisoned {state : EnrollmentBridgeState} {before : List Issued} (h : Remembers state before) :
    state ≠ .poisoned := by
  cases h <;> exact nofun

theorem remembers_active {before : List Issued} (h : Remembers .active before) : Active before := by
  cases h with
  | active hactive => exact hactive

/-- An enrolment that is continued is active. -/
theorem active_continued {before : List Issued} {command : Command} {reply : Except Raised Object}
    (h : Active before) (hcommand : command.command = commandEnrollContinue) :
    Active (before ++ [(command, reply)]) := by
  obtain ⟨first, value, events, rest, rfl, hfirst, hreplied, hrest⟩ := h
  refine ⟨first, value, events, rest ++ [(command, reply)], rfl, hfirst, hreplied, ?_⟩
  intro one hone
  rcases List.mem_append.mp hone with hone | hone
  · exact hrest one hone
  · rw [List.mem_singleton.mp hone]
    exact hcommand

section Methods

variable {pinned : PyStr} {events : List Bytes} {self : EnrollmentBridgeTransport} {log : Log} {α : Type}

/-- What a poisoned transport must have met. -/
theorem kept_poisoned (h : Ordered pinned log) (hfault : ∃ e ∈ log, ¬ Trusted pinned e)
    (hgeneration : self.connectionGeneration = pinned) :
    Kept pinned events { self with state := .poisoned, events := [] } log where
  toOrdered := h
  generation_eq := hgeneration
  state := .inl ⟨rfl, hfault⟩

theorem requireState_meets {allowed : List EnrollmentBridgeState} {operation : String}
    {ok : Unit → EnrollmentBridgeTransport → Log → Prop} {err : Raised → EnrollmentBridgeTransport → Log → Prop}
    (hok : self.state ∈ allowed → self.state ≠ .poisoned → ok () self log) (herr : ∀ error, err error self log) :
    Op.Logged (requireState allowed operation) self log ok err := by
  unfold requireState
  refine .bind (.get (.bind (.lift ?_ fun error _ => herr error)))
  intro _ hpoisoned
  refine .lift ?_ fun error _ => herr error
  intro _ hstate
  refine hok ?_ ?_
  · by_contra hne
    rw [raiseIf, if_pos hne] at hstate
    cases hstate
  · intro heq
    rw [raiseIf, if_pos heq] at hpoisoned
    cases hpoisoned

theorem failed_meets {text : String} {error : Raised} {ok : α → EnrollmentBridgeTransport → Log → Prop}
    {err : Raised → EnrollmentBridgeTransport → Log → Prop}
    (h : ∀ error, err error { self with state := .poisoned, events := [] } log) :
    Op.Logged (failed text error) self log ok err := by
  unfold failed poison
  refine .bind (.bind (.get (.set ?_)))
  cases error with
  | own own => exact .raise (h _)
  | other => exact .raise (h _)

/-- What a dispatch leaves that went well: the variables as they were, its events behind the others. -/
structure Dispatched (pinned : PyStr) (events : List Bytes) (before : EnrollmentBridgeTransport) (log : Log)
    (command : Nat) (status : Int) (after : EnrollmentBridgeTransport) (log' : Log) : Prop
    extends Ordered pinned log' where
  state_eq : after.state = before.state
  generation_eq : after.connectionGeneration = pinned
  trusted : ∀ e ∈ log', Trusted pinned e
  delivered : List.Forall₂ IsEvent (delivered log') (events ++ after.events)
  issued : ∃ issuedCommand value staged, issuedCommand.command = command ∧ Replied value status staged ∧
    issued log' = issued log ++ [(issuedCommand, .ok value)]
  accepted : command = commandCancel → status = 0

/-- **A dispatch**: it went well, or a cancellation was refused, or the transport is poisoned. -/
theorem dispatch_meets {command : Nat} {data : Bytes} {poisonNonzero statusAuthoritative : Bool}
    {wireVersion : Option Nat} {ok : Int → EnrollmentBridgeTransport → Log → Prop}
    (h : Kept pinned events self log) (hall : ∀ e ∈ log, Trusted pinned e)
    (hdelivered : List.Forall₂ IsEvent (delivered log) (events ++ self.events))
    (hcommand : ∀ version, InOrder (issued log) ⟨command, version, data, 0⟩)
    (hcancel : poisonNonzero = true ↔ command = commandCancel)
    (hauthoritative : statusAuthoritative = true ↔ command ≠ commandEnrollContinue)
    (hok : ∀ status self' log', Dispatched pinned events self log command status self' log' → ok status self' log')
    (hrefused : ∀ status self' log', command = commandCancel → status ≠ 0 → self'.state = .poisoned →
      Kept pinned events self' log' → ok status self' log') :
    Op.Logged (dispatch command data poisonNonzero statusAuthoritative wireVersion) self log ok
      fun _ self log => Kept pinned events self log := by
  obtain rfl := h.generation_eq
  unfold dispatch
  refine .bind (.get (.bind (.lift (fun _ _ => ?_) fun _ _ => h)))
  generalize wireVersion.getD self.protocolVersion = version
  have hordered : ∀ more, (Failed self.connectionGeneration (.command ⟨command, version, data, 0⟩) more ∨
      ∃ value, more = exchanged self.connectionGeneration (.command ⟨command, version, data, 0⟩) value) →
      Ordered self.connectionGeneration (log ++ more) :=
    fun _ hmore => ordered_command h.toOrdered hall (hcommand version) hmore
  refine .except (.bind (exchange_meets ?_ ?_))
  · intro value
    have hvalue := hordered _ (.inr ⟨value, rfl⟩)
    have hmem : (⟨.request (.command ⟨command, version, data, 0⟩), .ok value⟩ : Exchange Question Reply) ∈
        log ++ exchanged self.connectionGeneration (.command ⟨command, version, data, 0⟩) value :=
      List.mem_append_right _ (by simp [exchanged])
    refine .bind (.lift ?_ ?_)
    · rintro ⟨status, staged⟩ hread
      obtain ⟨hreplied, hstaged⟩ := readReply_ok.mp hread
      refine .bind (.get (.bind (.set (.bind ?_))))
      unfold poisonIf
      by_cases hpoison : statusAuthoritative = true ∧ status ≠ 0 ∧ poisonNonzero = true
      · -- a cancellation that was refused: the transport is poisoned, and the status is returned
        rw [if_pos hpoison]
        obtain ⟨-, hnonzero, hpoison⟩ := hpoison
        refine .bind (.get (.set (.pure ?_)))
        refine hrefused status _ _ (hcancel.mp hpoison) hnonzero rfl (kept_poisoned hvalue ⟨_, hmem, ?_⟩ rfl)
        rintro ⟨_, ⟨⟩, status', events', hreplied', -, hzero⟩
        exact hnonzero (replied_status hreplied hreplied' ▸ hzero (hcancel.mp hpoison))
      · rw [if_neg hpoison]
        have haccepted : command = commandCancel → status = 0 := by
          intro hiscancel
          by_contra hnonzero
          refine hpoison ⟨hauthoritative.mpr ?_, hnonzero, hcancel.mpr hiscancel⟩
          rw [hiscancel]
          decide
        refine .pure (.pure (hok status _ _ ?_))
        exact {
          toOrdered := hvalue
          state_eq := rfl
          generation_eq := rfl
          trusted := trusted_exchanged hall ⟨value, rfl, status, staged, hreplied,
            fun hne => hstaged (hauthoritative.mpr hne), haccepted⟩
          delivered := by
            rw [delivered_append, ← List.append_assoc]
            exact List.rel_append hdelivered (delivered_replied hreplied)
          issued := ⟨⟨command, version, data, 0⟩, value, staged, rfl, hreplied, issued_append _ _⟩
          accepted := haccepted }
    · intro error hread
      refine failed_meets fun _ => kept_poisoned hvalue ⟨_, hmem, ?_⟩ rfl
      rintro ⟨_, ⟨⟩, status, staged, hreplied, hstaged, -⟩
      rw [readReply_ok.mpr ⟨hreplied, fun hauth => hstaged (hauthoritative.mp hauth)⟩] at hread
      cases hread
  · intro more error hmore
    obtain ⟨e, he, huntrusted⟩ := untrusted_of_failed hmore
    exact failed_meets fun _ =>
      kept_poisoned (hordered more (.inl hmore)) ⟨e, List.mem_append_right _ he, huntrusted⟩ rfl

/-- What a method must keep, where the events of its answer are returned behind the others. -/
def Keeps (pinned : PyStr) (events : List Bytes) (self : EnrollmentBridgeTransport) (log : Log) (method : Code α)
    (answered : α → List Bytes) : Prop :=
  Op.Logged method self log (fun a self log => Kept pinned (events ++ answered a) self log)
    fun _ self log => Kept pinned events self log

theorem keeps_start (h : Kept pinned events self log) (payload : MemoryView) :
    Keeps pinned events self log (start payload) fun _ => [] := by
  simp only [Keeps, List.append_nil]
  unfold start
  refine .bind (requireState_meets (fun hidle hne => ?_) fun _ => h)
  obtain ⟨hpoisoned, -⟩ | ⟨hall, hremembers, hdelivered⟩ := h.state
  · exact absurd hpoisoned hne
  rw [List.mem_singleton.mp hidle] at hremembers
  have hnone : issued log = [] := remembers_idle hremembers
  refine .bind (.get (.bind (.lift (fun _ _ => ?_) fun _ _ => h)))
  refine .bind (dispatch_meets h hall hdelivered ?_ ?_ ?_ ?_ ?_)
  · intro version
    rw [hnone]
    exact .start rfl
  · exact iff_of_false Bool.false_ne_true (by decide)
  · exact iff_of_true rfl (by decide)
  · intro status self' log' hdispatched
    refine .bind (.get (.bind (.set (.pure ?_))))
    refine { toOrdered := hdispatched.toOrdered, generation_eq := hdispatched.generation_eq,
             state := .inr ⟨hdispatched.trusted, ?_, hdispatched.delivered⟩ }
    obtain ⟨command, value, staged, hcommand, hreplied, hissued⟩ := hdispatched.issued
    rw [hissued, hnone]
    show Remembers (if status = 0 then .active else .startRejected) _
    by_cases hzero : status = 0
    · rw [if_pos hzero]
      subst hzero
      exact .active ⟨command, value, staged, [], rfl, hcommand, hreplied, nofun⟩
    · rw [if_neg hzero]
      exact .startRejected _
  · intro status self' log' hcancel
    exact absurd hcancel (by decide)

theorem keeps_continue (h : Kept pinned events self log) :
    Keeps pinned events self log continueEnrollment fun _ => [] := by
  simp only [Keeps, List.append_nil]
  unfold continueEnrollment
  refine .bind (requireState_meets (fun hactive hne => ?_) fun _ => h)
  obtain ⟨hpoisoned, -⟩ | ⟨hall, hremembers, hdelivered⟩ := h.state
  · exact absurd hpoisoned hne
  have hstate := List.mem_singleton.mp hactive
  rw [hstate] at hremembers
  have hactive := remembers_active hremembers
  refine dispatch_meets h hall hdelivered (fun _ => .continueEnrollment hactive rfl) ?_ ?_ ?_ ?_
  · exact iff_of_false Bool.false_ne_true (by decide)
  · exact iff_of_false Bool.false_ne_true (not_not.mpr rfl)
  · intro status self' log' hdispatched
    refine { toOrdered := hdispatched.toOrdered, generation_eq := hdispatched.generation_eq,
             state := .inr ⟨hdispatched.trusted, ?_, hdispatched.delivered⟩ }
    obtain ⟨command, value, staged, hcommand, -, hissued⟩ := hdispatched.issued
    rw [hdispatched.state_eq, hstate, hissued]
    exact .active (active_continued hactive hcommand)
  · intro status self' log' hcancel
    exact absurd hcancel (by decide)

theorem keeps_cancel (h : Kept pinned events self log) :
    Keeps pinned events self log cancel fun _ => [] := by
  simp only [Keeps, List.append_nil]
  unfold cancel
  refine .bind (requireState_meets (fun hactive hne => ?_) fun _ => h)
  obtain ⟨hpoisoned, -⟩ | ⟨hall, hremembers, hdelivered⟩ := h.state
  · exact absurd hpoisoned hne
  rw [List.mem_singleton.mp hactive] at hremembers
  refine .bind (dispatch_meets h hall hdelivered (fun _ => .cancel (remembers_active hremembers) rfl) ?_ ?_ ?_ ?_)
  · exact iff_of_true rfl rfl
  · exact iff_of_true rfl (by decide)
  · intro status self' log' hdispatched
    refine .bind (.get (.bind (.set (.pure ?_))))
    refine { toOrdered := hdispatched.toOrdered, generation_eq := hdispatched.generation_eq,
             state := .inr ⟨hdispatched.trusted, ?_, hdispatched.delivered⟩ }
    show Remembers (if status = 0 then .cancelRequested else self'.state) _
    rw [if_pos (hdispatched.accepted rfl)]
    exact .cancelRequested _
  · intro status self' log' _ hnonzero _ hkept
    refine .bind (.get (.bind (.set (.pure ?_))))
    rw [if_neg hnonzero]
    exact hkept

theorem keeps_nextEvent (h : Kept pinned events self log) (timeout : Option Rat) :
    Keeps pinned events self log (nextEvent timeout) Option.toList := by
  unfold Keeps nextEvent
  refine .bind (requireState_meets (fun hactive hne => ?_) fun _ => h)
  obtain ⟨hpoisoned, -⟩ | ⟨hall, hremembers, hdelivered⟩ := h.state
  · exact absurd hpoisoned hne
  refine .bind (.lift (fun timeout _ => ?_) fun _ _ => h)
  refine .bind (.get ?_)
  cases hqueue : self.events with
  | cons data waiting =>
    -- the first one in the queue
    refine .bind (.set (.pure ?_))
    refine { toOrdered := h.toOrdered, generation_eq := h.generation_eq, state := .inr ⟨hall, hremembers, ?_⟩ }
    rw [hqueue] at hdelivered
    show List.Forall₂ IsEvent (delivered log) (events ++ [data] ++ waiting)
    rwa [List.append_assoc]
  | nil =>
    obtain rfl := h.generation_eq
    rw [hqueue, List.append_nil] at hdelivered
    have hordered : ∀ more, (Failed self.connectionGeneration (.wait timeout) more ∨
        ∃ value, more = exchanged self.connectionGeneration (.wait timeout) value) →
        Ordered self.connectionGeneration (log ++ more) :=
      fun _ hmore => ordered_wait h.toOrdered hall hmore
    refine .except (.bind (exchange_meets ?_ ?_))
    · intro value
      have hvalue := hordered _ (.inr ⟨value, rfl⟩)
      have hmem : (⟨.request (.wait timeout), .ok value⟩ : Exchange Question Reply) ∈
          log ++ exchanged self.connectionGeneration (.wait timeout) value :=
        List.mem_append_right _ (by simp [exchanged])
      refine .lift ?_ ?_
      · intro event hreceived
        obtain ⟨hevent, htrusted⟩ := received_ok hreceived
        refine { toOrdered := hvalue, generation_eq := rfl, state := .inr ⟨?_, ?_, ?_⟩ }
        · exact trusted_exchanged hall ⟨value, rfl, htrusted⟩
        · rw [issued_append, issued_wait (.inr ⟨value, rfl⟩), List.append_nil]
          exact hremembers
        · rw [delivered_append, hqueue, List.append_nil]
          exact List.rel_append hdelivered hevent
      · intro error hreceived
        refine failed_meets fun _ => kept_poisoned hvalue ⟨_, hmem, ?_⟩ rfl
        rintro ⟨_, ⟨⟩, rfl | ⟨data, hdata⟩⟩
        · cases hreceived
        · rw [received_event hdata] at hreceived
          cases hreceived
    · intro more error hmore
      obtain ⟨e, he, huntrusted⟩ := untrusted_of_failed hmore
      exact failed_meets fun _ =>
        kept_poisoned (hordered more (.inl hmore)) ⟨e, List.mem_append_right _ he, huntrusted⟩ rfl

/-- **One call** keeps the invariant, with its event behind those returned before. -/
theorem keeps_perform (h : Kept pinned events self log) (call : Call) :
    Op.Logged (perform call) self log (fun answer self log => Kept pinned (events ++ eventOf (.ok answer)) self log)
      fun _ self log => Kept pinned events self log := by
  cases call with
  | start payload => exact .seq (keeps_start h payload) fun _ _ _ hkept => .pure hkept
  | continueEnrollment => exact .seq (keeps_continue h) fun _ _ _ hkept => .pure hkept
  | cancel => exact .seq (keeps_cancel h) fun _ _ _ hkept => .pure hkept
  | nextEvent timeout =>
    refine .seq (keeps_nextEvent h timeout) fun event _ _ hkept => .pure ?_
    cases event with
    | none => exact hkept
    | some data => exact hkept

end Methods

/-! ## Result -/

/-- Calls of the methods of one transport, whose lease replies as it likes. -/
def play (replier : Log → (q : Question) → Reply q) (version : Nat) (pinned : PyStr) (calls : List Call) :
    Log × Outcome Raised (List (Except Raised Answer)) × EnrollmentBridgeTransport :=
  (Op.session perform calls (init version pinned)).play replier []

/-- **The order of an enrolment.**  Whatever is called and whatever the lease replies: a transport is poisoned where
    something was not to be trusted, and there is no command behind it; there is one start, and behind it continuations
    until a cancellation; and what an unpoisoned transport has returned and keeps waiting are the events that were
    delivered, in their order. -/
theorem enrollment_order (replier : Log → (q : Question) → Reply q) (version : Nat) (pinned : PyStr)
    (calls : List Call) :
    let log := (play replier version pinned calls).1
    let transport := (play replier version pinned calls).2.2
    (transport.state = .poisoned ↔ ∃ e ∈ log, ¬ Trusted pinned e) ∧
      Silent (Trusted pinned) log ∧
      Every (fun before one => InOrder before one.1) (issued log) ∧
      ∃ answers, (play replier version pinned calls).2.1 = .returned answers ∧
        (transport.state ≠ .poisoned →
          List.Forall₂ IsEvent (delivered log) (returned answers ++ transport.events)) := by
  have hsession : Op.Logged (Op.session perform calls : Op Question Reply _ Raised _) (init version pinned) []
      (fun answers self log => Kept pinned (returned answers) self log) fun _ _ _ => False := by
    refine .session (I := fun answers self log => Kept pinned (returned answers) self log) ?_ calls
      (kept_init version pinned)
    intro call answers self log hkept
    refine (keeps_perform hkept call).mono ?_ ?_
    · intro answer self log hkept
      rwa [returned, List.flatMap_append, List.flatMap_singleton]
    · intro error self log hkept
      have hnone : eventOf (.error error) = [] := rfl
      rwa [returned, List.flatMap_append, List.flatMap_singleton, hnone, List.append_nil]
  obtain ⟨answers, hanswers, hkept⟩ | ⟨_, -, hnever⟩ := hsession.played replier
  · refine ⟨⟨fun hpoisoned => ?_, ?_⟩, hkept.silent, hkept.order, answers, hanswers, fun hne => ?_⟩
    · obtain ⟨-, hfault⟩ | ⟨-, hremembers, -⟩ := hkept.state
      · exact hfault
      · exact absurd hpoisoned (not_poisoned hremembers)
    · rintro ⟨e, he, huntrusted⟩
      obtain ⟨hpoisoned, -⟩ | ⟨hall, -⟩ := hkept.state
      · exact hpoisoned
      · exact absurd (hall e he) huntrusted
    · obtain ⟨hpoisoned, -⟩ | ⟨-, -, hdelivered⟩ := hkept.state
      · exact absurd hpoisoned hne
      · exact hdelivered
  · exact hnever.elim

end EnrollmentBridgeTransport

/-- **Both adapters keep the order**, whatever is called and whatever their leases reply. -/
theorem adapters_in_order :
    (∀ (replier : Log → (q : Question) → Reply q) (version : Nat) (pinned : PyStr)
        (calls : List CatacombBridgeTransport.Call),
      let log := (CatacombBridgeTransport.play replier version pinned calls).1
      let transport := (CatacombBridgeTransport.play replier version pinned calls).2.2
      (transport.state = .poisoned ↔ ∃ e ∈ log, ¬ CatacombBridgeTransport.Trusted pinned e) ∧
        Silent (CatacombBridgeTransport.Trusted pinned) log ∧
        Every (fun before one => CatacombBridgeTransport.InOrder version before.getLast? one.1) (issued log)) ∧
    ∀ (replier : Log → (q : Question) → Reply q) (version : Nat) (pinned : PyStr)
        (calls : List EnrollmentBridgeTransport.Call),
      let log := (EnrollmentBridgeTransport.play replier version pinned calls).1
      let transport := (EnrollmentBridgeTransport.play replier version pinned calls).2.2
      (transport.state = .poisoned ↔ ∃ e ∈ log, ¬ EnrollmentBridgeTransport.Trusted pinned e) ∧
        Silent (EnrollmentBridgeTransport.Trusted pinned) log ∧
        Every (fun before one => EnrollmentBridgeTransport.InOrder before one.1) (issued log) ∧
        ∃ answers, (EnrollmentBridgeTransport.play replier version pinned calls).2.1 = .returned answers ∧
          (transport.state ≠ .poisoned → List.Forall₂ EnrollmentBridgeTransport.IsEvent
            (EnrollmentBridgeTransport.delivered log)
            (EnrollmentBridgeTransport.returned answers ++ transport.events)) :=
  ⟨CatacombBridgeTransport.transaction_order, EnrollmentBridgeTransport.enrollment_order⟩

end T2TouchId.Bridge
