/-
  A context of the credential manager, from its creation to its deletion (`src/t2_acm_device.py`, with the framing of
  `src/t2_acm_protocol.py`).

  Problem: a password is bound to a fresh context, and somebody uses the context while its policy is satisfied.  At any
  step something may be raised, and still the context must be deleted, once and last.

  1. **Framing** — what is sent, and what is read of the responses.
  2. **The call (`withAuthorizedContext`)** — its `try` block, the cleanup behind it, and which error is raised.
  3. **Logs (`Tried`)** — how far the block may come, exchange by exchange; `Shape`, with the creation in front and
     the deletion behind.
  4. **What follows** — one lemma for each law, by the shape.
  5. **Result** — `context_cleaned_up`.
-/
import T2TouchId.Acm.Driver
import T2TouchId.Calls
import T2TouchId.Pieces
import T2TouchId.Trace

namespace T2TouchId.Acm.Context

open T2TouchId.Calls T2TouchId.User T2TouchId.Python
open Bytes (slice)

/-! ## Framing -/

/-- What was raised, as `str` shows it. -/
structure Raised where
  text : String
  deriving DecidableEq

def uint32Max : Nat := 0xFFFFFFFF
def opContextCreate : UInt8 := 0x01
def opContextDelete : UInt8 := 0x02
def opVerifyPolicy : UInt8 := 0x03
def opContextExternalize : UInt8 := 0x13
def opContextCreateTracking : UInt8 := 0x24
def policyResponseCapacity : Nat := 0x1000

/-- `SIMPLE_REQUIREMENT_TYPES`. -/
def simpleRequirementTypes : List Nat := [1, 2, 3, 6] ++ List.range' 8 8 ++ List.range' 18 11

structure ContextHandle where
  context : Bytes
  payload : Nat
  tracking : Bool
  responseByte : Nat
  length_context : context.length = contextSize
  payload_le : payload ≤ uint32Max
  responseByte_le : responseByte ≤ 0xFF
  flag : tracking = true → responseByte = 0 ∨ responseByte = 1

/-- `ContextHandle(...)`, with `__post_init__`. -/
def ContextHandle.make (context : Bytes) (payload : Nat) (tracking : Bool) (responseByte : Nat) :
    Except Raised ContextHandle :=
  if hcontext : context.length = contextSize then
    if hpayload : payload ≤ uint32Max then
      if hbyte : responseByte ≤ 0xFF then
        if hflag : tracking = true → responseByte = 0 ∨ responseByte = 1 then
          .ok ⟨context, payload, tracking, responseByte, hcontext, hpayload, hbyte, hflag⟩
        else .error ⟨"tracking response flag is not boolean"⟩
      else .error ⟨"response_byte is outside uint8 range"⟩
    else .error ⟨"context payload is outside uint32 range"⟩
  else .error ⟨"context must be exactly 16 bytes"⟩

structure PolicyResult where
  satisfied : Bool
  requirementPresent : Bool
  requirementLength : Nat
  requirementType : Option Nat
  requirementState : Option Nat
  requirementFlags : Option Nat
  requirementPayloadLength : Option Nat
  deriving DecidableEq

/-- `_header`. -/
def header (opcode : UInt8) : Except Raised Bytes := do
  raiseIf (opcode ∉ [opContextCreate, opContextDelete, opVerifyPolicy, opContextExternalize, opContextCreateTracking])
    ⟨"opcode is outside the lifecycle allowlist"⟩
  return requestPrefix ++ [opcode, 0, 0, 1]

/-- `build_create`. -/
def buildCreate (userId : Int) (tracking : Bool) : Except Raised Bytes := do
  raiseIf (¬ (0 ≤ userId ∧ userId ≤ uint32Max)) ⟨"user_id is outside uint32 range"⟩
  let opcode := if tracking then opContextCreateTracking else opContextCreate
  let front ← header opcode
  return front ++ Bytes.le 4 userId.toNat

/-- `parse_create_response`. -/
def parseCreateResponse (response : Bytes) (tracking : Bool) : Except Raised ContextHandle := do
  let expected := if tracking then 21 else 17
  raiseIf (response.length ≠ expected) ⟨s!"create response must be exactly {expected} bytes"⟩
  let flagOffset := contextSize + if tracking then 4 else 0
  let responseByte := (response.getD flagOffset 0).toNat
  raiseIf (tracking = true ∧ responseByte ≠ 0 ∧ responseByte ≠ 1) ⟨"tracking create response flag is not boolean"⟩
  let payload := if tracking then Bytes.leNat (slice response contextSize 4) else 0
  ContextHandle.make (response.take contextSize) payload tracking responseByte

/-- `build_delete`. -/
def buildDelete (handle : ContextHandle) : Except Raised Bytes := do
  let front ← header opContextDelete
  return front ++ handle.context

/-- `build_externalize`. -/
def buildExternalize (handle : ContextHandle) : Except Raised Bytes := do
  let front ← header opContextExternalize
  return front ++ handle.context

/-- `build_enrollment_policy`. -/
def buildEnrollmentPolicy (handle : ContextHandle) (preflight : Bool) : Except Raised Bytes := do
  let front ← header opVerifyPolicy
  return front ++ handle.context ++ policyName ++ [if preflight then 1 else 0] ++ Bytes.le 4 0 ++ Bytes.le 4 0

/-- `parse_policy_response`. -/
def parsePolicyResponse (response : Bytes) : Except Raised PolicyResult := do
  raiseIf (¬ (4 ≤ response.length ∧ response.length ≤ policyResponseCapacity))
    ⟨"policy response length is invalid"⟩
  let rawResult := Bytes.leNat (slice response 0 4)
  raiseIf (rawResult ≠ 0 ∧ rawResult ≠ 1) ⟨"policy result is not boolean"⟩
  let requirement := response.drop 4
  if requirement = [] then
    return ⟨rawResult ≠ 0, false, 0, none, none, none, none⟩
  raiseIf (requirement.length < 16) ⟨"policy requirement is shorter than its header"⟩
  let reqType := Bytes.leNat (slice requirement 0 4)
  let state := Bytes.leNat (slice requirement 4 4)
  let flags := Bytes.leNat (slice requirement 8 4)
  let payloadLength := Bytes.leNat (slice requirement 12 4)
  raiseIf (reqType ∉ simpleRequirementTypes) ⟨"policy returned an unsupported requirement type"⟩
  raiseIf (payloadLength ≠ requirement.length - 16) ⟨"policy requirement payload length is inconsistent"⟩
  return ⟨rawResult ≠ 0, true, requirement.length, some reqType, some state, some flags, some payloadLength⟩

/-- `expected` in `validate_command`. -/
def expectedLength (opcode : UInt8) : Option Nat :=
  if opcode = opContextCreate ∨ opcode = opContextCreateTracking then some 12
  else if opcode = opContextDelete ∨ opcode = opContextExternalize then some 24
  else if opcode = opVerifyPolicy then some 51
  else none

/-- `validate_command`. -/
def validateCommand (command : Bytes) : Except Raised UInt8 := do
  raiseIf (command.length < 8) ⟨"command is shorter than the ACM header"⟩
  raiseIf (command.take 4 ≠ requestPrefix ∨ slice command 5 3 ≠ [0, 0, 1]) ⟨"command header is invalid"⟩
  let opcode := command.getD 4 0
  raiseIf (expectedLength opcode ≠ some command.length) ⟨"command opcode or length is not allowed"⟩
  let fixed := command.drop 24
  raiseIf (opcode = opVerifyPolicy ∧ (fixed.take 18 ≠ policyName ∨ (fixed.getD 18 0 ≠ 0 ∧ fixed.getD 18 0 ≠ 1) ∨
    fixed.drop 19 ≠ List.replicate 8 0)) ⟨"policy command is not the fixed enrollment policy"⟩
  return opcode

/-! ## The call -/

/-- What the consumer gives back: a result, or something to wait for, which can perhaps be closed. -/
inductive Candidate (T : Type)
  | result (value : T)
  | awaitable (closable : Bool)
  deriving DecidableEq

/-- What is asked of the device, of the password binder and of the consumer. -/
inductive Question
  | exchange (command : Bytes) (responseCapacity : Nat)
  | passwordBinder (externalForm : Bytes)
  | consumer (externalForm : Bytes)
  | close
  deriving DecidableEq

abbrev Reply (T : Type) : Question → Type
  | .exchange _ _ => Except Raised Bytes
  | .passwordBinder _ => Except Raised Unit
  | .consumer _ => Except Raised (Candidate T)
  | .close => Except Raised Unit

abbrev Log (T : Type) : Type := List (Calls.Exchange Question (Reply T))

/-- The variables that the `try` block sets. -/
structure Locals (T : Type) where
  stage : String
  initial : Option PolicyResult
  final : Option PolicyResult
  consumerResult : Option T
  primaryError : Option Raised

section Call

variable {T : Type}

abbrev Code (T α : Type) : Type := Op Question (Reply T) (Locals T) Raised α

def exchange (command : Bytes) (responseCapacity : Nat) : Code T Bytes := do
  let reply ← (Op.ask (Question.exchange command responseCapacity) : Code T (Except Raised Bytes))
  Op.lift reply

def passwordBinder (externalForm : Bytes) : Code T Unit := do
  let reply ← (Op.ask (Question.passwordBinder externalForm) : Code T (Except Raised Unit))
  Op.lift reply

def consumer (externalForm : Bytes) : Code T (Candidate T) := do
  let reply ← (Op.ask (Question.consumer externalForm) : Code T (Except Raised (Candidate T)))
  Op.lift reply

def close : Code T Unit := do
  let reply ← (Op.ask Question.close : Code T (Except Raised Unit))
  Op.lift reply

def setStage (stage : String) : Code T Unit := do
  let locals ← Op.get
  Op.set { locals with stage := stage }

/-- `externalize_context`. -/
def externalizeContext (handle : ContextHandle) : Code T Bytes := do
  let command ← Op.lift (buildExternalize handle)
  let response ← exchange command 0
  Op.lift (raiseIf (response ≠ []) ⟨"context externalization returned an unexpected body"⟩)
  return handle.context

/-- `parse_policy_response(device.exchange(build_enrollment_policy(…), …))`. -/
def checkPolicy (handle : ContextHandle) (preflight : Bool) : Code T PolicyResult := do
  let command ← Op.lift (buildEnrollmentPolicy handle preflight)
  let response ← exchange command policyResponseCapacity
  Op.lift (parsePolicyResponse response)

/-- What is done with what the consumer gave back. -/
def settle : Candidate T → Code T T
  | .result value => pure value
  | .awaitable closable => do
    if closable then close else pure ()
    Op.raise ⟨"authorized consumer must complete synchronously"⟩

/-- The block that may fail. -/
def authorize (response : Bytes) (tracking : Bool) : Code T Unit := do
  let handle ← Op.lift (parseCreateResponse response tracking)
  setStage "policy-preflight"
  let initial ← checkPolicy handle true
  let locals ← Op.get
  Op.set { locals with initial := some initial }
  Op.lift (raiseIf (initial.satisfied = true ∨ initial.requirementType ≠ some 1)
    ⟨"initial policy state is not the passcode requirement"⟩)
  setStage "context-externalization"
  let externalForm ← externalizeContext handle
  setStage "password-binding"
  passwordBinder externalForm
  setStage "policy-final"
  let final ← checkPolicy handle false
  let locals ← Op.get
  Op.set { locals with final := some final }
  Op.lift (raiseIf (final.satisfied = false) ⟨"policy 1007 remained unsatisfied after password binding"⟩)
  setStage "authorized-consumer"
  let candidate ← consumer externalForm
  let value ← settle candidate
  let locals ← Op.get
  Op.set { locals with consumerResult := some value }

/-- `except BaseException as error: primary_error = error`. -/
def remember (error : Raised) : Code T Unit := do
  let locals ← Op.get
  Op.set { locals with primaryError := some error }

/-- The mandatory cleanup. -/
def cleanup (cleanupHandle : ContextHandle) : Code T Unit := do
  let command ← Op.lift (buildDelete cleanupHandle)
  let deleteResponse ← exchange command 0
  Op.lift (raiseIf (deleteResponse ≠ []) ⟨"delete returned an unexpected response body"⟩)

/-- What is raised when the cleanup failed. -/
def cleanupFailed (cleanupError : Raised) : Code T Unit := do
  let locals ← Op.get
  let stage := locals.stage
  let text := cleanupError.text
  match locals.primaryError with
  | some _ => Op.raise ⟨s!"authorized operation failed at {stage} and mandatory cleanup failed: {text}"⟩
  | none => Op.raise ⟨s!"authorized operation completed but mandatory cleanup failed: {text}"⟩

/-- What is returned or raised when the cleanup succeeded. -/
def conclude : Code T (PolicyResult × PolicyResult × T) := do
  let locals ← Op.get
  let stage := locals.stage
  match locals.primaryError, locals.initial, locals.final, locals.consumerResult with
  | some _, _, _, _ => Op.raise ⟨s!"authorized operation failed at {stage}; context was cleaned up"⟩
  | none, some initial, some final, some value => return (initial, final, value)
  | none, _, _, _ => Op.raise ⟨"AssertionError"⟩

/-- `with_authorized_context`. -/
def withAuthorizedContext (userId : Int) (tracking : Bool) : Code T (PolicyResult × PolicyResult × T) := do
  let responseCapacity := if tracking then 21 else 17
  let command ← Op.lift (buildCreate userId tracking)
  let response ← exchange command responseCapacity
  Op.lift (raiseIf (response.length < contextSize)
    ⟨"create response omitted the context required for mandatory cleanup"⟩)
  let cleanupHandle ← Op.lift (ContextHandle.make (response.take contextSize) 0 tracking 0)
  Op.except (authorize response tracking) remember
  Op.except (cleanup cleanupHandle) cleanupFailed
  conclude

/-- The variables before the call. -/
def locals : Locals T := ⟨"create-response", none, none, none, none⟩

/-- A call, where the device, the binder and the consumer reply as they like. -/
def play (replier : Log T → (q : Question) → Reply T q) (userId : Int) (tracking : Bool) :
    Log T × Outcome Raised (PolicyResult × PolicyResult × T) × Locals T :=
  (withAuthorizedContext userId tracking locals).play replier []

end Call

/-! ## Logs -/

/-- The requests, as they are sent. -/
def createRequest (userId : Nat) (tracking : Bool) : Bytes :=
  requestPrefix ++ [if tracking then opContextCreateTracking else opContextCreate, 0, 0, 1] ++ Bytes.le 4 userId

def externalizeRequest (context : Bytes) : Bytes := requestPrefix ++ [opContextExternalize, 0, 0, 1] ++ context

def policyRequest (context : Bytes) (preflight : Bool) : Bytes :=
  requestPrefix ++ [opVerifyPolicy, 0, 0, 1] ++ context ++ policyName ++ [if preflight then 1 else 0] ++
    Bytes.le 4 0 ++ Bytes.le 4 0

theorem buildCreate_ok {userId : Int} {tracking : Bool} {command : Bytes}
    (h : buildCreate userId tracking = .ok command) : command = createRequest userId.toNat tracking := by
  obtain ⟨-, h⟩ := raiseIf_ok.mp h
  cases tracking <;> exact (Except.ok.inj h).symm

theorem buildDelete_eq (handle : ContextHandle) : buildDelete handle = .ok (deleteRequest handle.context) := rfl

theorem buildExternalize_eq (handle : ContextHandle) :
    buildExternalize handle = .ok (externalizeRequest handle.context) := rfl

theorem buildEnrollmentPolicy_eq (handle : ContextHandle) (preflight : Bool) :
    buildEnrollmentPolicy handle preflight = .ok (policyRequest handle.context preflight) := rfl

section Logs

variable {T : Type}

/-- One exchange of any kind. -/
abbrev Entry (T : Type) : Type := Calls.Exchange Question (Reply T)

def created (userId : Nat) (tracking : Bool) (reply : Except Raised Bytes) : Entry T :=
  ⟨.exchange (createRequest userId tracking) (if tracking then 21 else 17), reply⟩

def policyChecked (context : Bytes) (preflight : Bool) (reply : Except Raised Bytes) : Entry T :=
  ⟨.exchange (policyRequest context preflight) policyResponseCapacity, reply⟩

def externalized (context : Bytes) (reply : Except Raised Bytes) : Entry T :=
  ⟨.exchange (externalizeRequest context) 0, reply⟩

def bound (context : Bytes) (reply : Except Raised Unit) : Entry T := ⟨.passwordBinder context, reply⟩

def consumed (context : Bytes) (reply : Except Raised (Candidate T)) : Entry T := ⟨.consumer context, reply⟩

def closed (reply : Except Raised Unit) : Entry T := ⟨.close, reply⟩

def deleted (context : Bytes) (reply : Except Raised Bytes) : Entry T := ⟨.exchange (deleteRequest context) 0, reply⟩

/-- A policy that is not satisfied and asks for the passcode. -/
def AsksPasscode (response : Bytes) : Prop :=
  ∃ result, parsePolicyResponse response = .ok result ∧ result.satisfied = false ∧ result.requirementType = some 1

/-- A policy that is satisfied. -/
def IsSatisfied (response : Bytes) : Prop := ∃ result, parsePolicyResponse response = .ok result ∧ result.satisfied = true

/-- What the block has asked when it ends: each question behind those before it, all of which were answered well. -/
inductive Tried (context : Bytes) : Log T → Prop
  | nothing : Tried context []
  | preflight (reply : Except Raised Bytes) : Tried context [policyChecked context true reply]
  | externalize {first : Bytes} (hfirst : AsksPasscode first) (reply : Except Raised Bytes) :
      Tried context [policyChecked context true (.ok first), externalized context reply]
  | bind {first : Bytes} (hfirst : AsksPasscode first) (reply : Except Raised Unit) :
      Tried context [policyChecked context true (.ok first), externalized context (.ok []), bound context reply]
  | final {first : Bytes} (hfirst : AsksPasscode first) (reply : Except Raised Bytes) :
      Tried context [policyChecked context true (.ok first), externalized context (.ok []), bound context (.ok ()),
        policyChecked context false reply]
  | consume {first last : Bytes} (hfirst : AsksPasscode first) (hlast : IsSatisfied last)
      (reply : Except Raised (Candidate T)) :
      Tried context [policyChecked context true (.ok first), externalized context (.ok []), bound context (.ok ()),
        policyChecked context false (.ok last), consumed context reply]
  | close {first last : Bytes} (hfirst : AsksPasscode first) (hlast : IsSatisfied last) (reply : Except Raised Unit) :
      Tried context [policyChecked context true (.ok first), externalized context (.ok []), bound context (.ok ()),
        policyChecked context false (.ok last), consumed context (.ok (.awaitable true)), closed reply]

/-- A whole log: nothing, a creation without a context, or a creation, what was tried, and the deletion. -/
inductive Shape (userId : Nat) (tracking : Bool) : Log T → Prop
  | unsent : Shape userId tracking []
  | failed (reply : Except Raised Bytes) (h : ∀ response, reply = .ok response → response.length < contextSize) :
      Shape userId tracking [created userId tracking reply]
  | cleaned {response : Bytes} (h : contextSize ≤ response.length) {tried : Log T}
      (htried : Tried (response.take contextSize) tried) (reply : Except Raised Bytes) :
      Shape userId tracking
        (created userId tracking (.ok response) :: (tried ++ [deleted (response.take contextSize) reply]))

/-- A log in which every step succeeded, with what was read in it. -/
def Complete (userId : Nat) (tracking : Bool) (log : Log T) (initial final : PolicyResult) (value : T) : Prop :=
  ∃ response handle first last, parseCreateResponse response tracking = .ok handle ∧
    parsePolicyResponse first = .ok initial ∧ initial.satisfied = false ∧ initial.requirementType = some 1 ∧
    parsePolicyResponse last = .ok final ∧ final.satisfied = true ∧
    log = [created userId tracking (.ok response), policyChecked handle.context true (.ok first),
      externalized handle.context (.ok []), bound handle.context (.ok ()),
      policyChecked handle.context false (.ok last), consumed handle.context (.ok (.result value)),
      deleted handle.context (.ok [])]

/-! ## The run -/

variable {s : Locals T} {log : Log T} {α : Type}

theorem exchange_meets {command : Bytes} {capacity : Nat} {ok : Bytes → Locals T → Log T → Prop}
    {err : Raised → Locals T → Log T → Prop}
    (hok : ∀ response, ok response s (log ++ [⟨.exchange command capacity, .ok response⟩]))
    (herr : ∀ error, err error s (log ++ [⟨.exchange command capacity, .error error⟩])) :
    Op.Logged (exchange command capacity) s log ok err := by
  unfold exchange
  refine .bind (.asked fun reply => ?_)
  cases reply with
  | ok response => exact .pure (hok response)
  | error error => exact .raise (herr error)

theorem passwordBinder_meets {form : Bytes} {ok : Unit → Locals T → Log T → Prop}
    {err : Raised → Locals T → Log T → Prop} (hok : ok () s (log ++ [bound form (.ok ())]))
    (herr : ∀ error, err error s (log ++ [bound form (.error error)])) :
    Op.Logged (passwordBinder form) s log ok err := by
  unfold passwordBinder
  refine .bind (.asked fun reply => ?_)
  cases reply with
  | ok _ => exact .pure hok
  | error error => exact .raise (herr error)

theorem consumer_meets {form : Bytes} {ok : Candidate T → Locals T → Log T → Prop}
    {err : Raised → Locals T → Log T → Prop} (hok : ∀ candidate, ok candidate s (log ++ [consumed form (.ok candidate)]))
    (herr : ∀ error, err error s (log ++ [consumed form (.error error)])) :
    Op.Logged (consumer form) s log ok err := by
  unfold consumer
  refine .bind (.asked fun reply => ?_)
  cases reply with
  | ok candidate => exact .pure (hok candidate)
  | error error => exact .raise (herr error)

theorem checkPolicy_meets {handle : ContextHandle} {preflight : Bool} {ok : PolicyResult → Locals T → Log T → Prop}
    {err : Raised → Locals T → Log T → Prop}
    (hok : ∀ response result, parsePolicyResponse response = .ok result →
      ok result s (log ++ [policyChecked handle.context preflight (.ok response)]))
    (herr : ∀ reply error, err error s (log ++ [policyChecked handle.context preflight reply])) :
    Op.Logged (checkPolicy handle preflight) s log ok err := by
  unfold checkPolicy
  rw [buildEnrollmentPolicy_eq]
  refine .bind (.pure (.bind (exchange_meets ?_ fun error => herr (.error error) error)))
  exact fun response => .lift (fun result h => hok response result h) fun error _ => herr (.ok response) error

theorem externalizeContext_meets {handle : ContextHandle} {ok : Bytes → Locals T → Log T → Prop}
    {err : Raised → Locals T → Log T → Prop}
    (hok : ok handle.context s (log ++ [externalized handle.context (.ok [])]))
    (herr : ∀ reply error, err error s (log ++ [externalized handle.context reply])) :
    Op.Logged (externalizeContext handle) s log ok err := by
  unfold externalizeContext
  rw [buildExternalize_eq]
  refine .bind (.pure (.bind (exchange_meets ?_ fun error => herr (.error error) error)))
  intro response
  refine .bind (.lift ?_ fun error _ => herr (.ok response) error)
  intro _ h
  by_cases hempty : response = []
  · subst hempty
    exact .pure hok
  · rw [raiseIf, if_pos hempty] at h
    exact nomatch h

/-- What is left of the block when it was gone through. -/
def Authorized (context : Bytes) (log : Log T) (initial final : PolicyResult) (value : T) : Prop :=
  ∃ first last, parsePolicyResponse first = .ok initial ∧ initial.satisfied = false ∧
    initial.requirementType = some 1 ∧ parsePolicyResponse last = .ok final ∧ final.satisfied = true ∧
    log = [policyChecked context true (.ok first), externalized context (.ok []), bound context (.ok ()),
      policyChecked context false (.ok last), consumed context (.ok (.result value))]

theorem setStage_meets {stage : String} {ok : Unit → Locals T → Log T → Prop} {err : Raised → Locals T → Log T → Prop}
    (h : ok () { s with stage := stage } log) : Op.Logged (setStage stage) s log ok err := by
  unfold setStage
  exact .bind (.get (.set h))

/-- A test behind which there is something to do. -/
theorem raiseIf_meets {p : Prop} [Decidable p] {error : Raised} {ok : Unit → Locals T → Log T → Prop}
    {err : Raised → Locals T → Log T → Prop} (hok : ¬ p → ok () s log) (herr : ∀ error, err error s log) :
    Op.Logged (Op.lift (raiseIf p error)) s log ok err := by
  refine .lift (fun _ h => hok fun hp => ?_) fun error _ => herr error
  rw [raiseIf, if_pos hp] at h
  exact nomatch h

/-- The context is the beginning of the response. -/
theorem context_make {context : Bytes} {payload responseByte : Nat} {tracking : Bool} {handle : ContextHandle}
    (h : ContextHandle.make context payload tracking responseByte = .ok handle) : handle.context = context := by
  unfold ContextHandle.make at h
  split at h
  · split at h
    · split at h
      · split at h
        · rw [← Except.ok.inj h]
        · exact nomatch h
      · exact nomatch h
    · exact nomatch h
  · exact nomatch h

theorem context_parse {response : Bytes} {tracking : Bool} {handle : ContextHandle}
    (h : parseCreateResponse response tracking = .ok handle) : handle.context = response.take contextSize := by
  obtain ⟨-, h⟩ := raiseIf_ok.mp h
  obtain ⟨-, h⟩ := raiseIf_ok.mp h
  exact context_make h

/-- What was given back is the result, or the consumer was not done. -/
theorem settle_meets {candidate : Candidate T} {ok : T → Locals T → Log T → Prop}
    {err : Raised → Locals T → Log T → Prop} (hok : ∀ value, candidate = .result value → ok value s log)
    (herr : ∀ error, err error s log)
    (hclosed : candidate = .awaitable true → ∀ reply error, err error s (log ++ [closed reply])) :
    Op.Logged (settle candidate) s log ok err := by
  cases candidate with
  | result value => exact .pure (hok value rfl)
  | awaitable closable =>
    cases closable with
    | false => exact .bind (.pure (.raise (herr _)))
    | true =>
      refine .bind (.bind (.asked fun reply => ?_))
      cases reply with
      | ok _ => exact .pure (.raise (hclosed rfl _ _))
      | error error => exact .raise (hclosed rfl _ error)

/-- **The block**: it is gone through, or it has come as far as `Tried` says. -/
theorem authorize_meets {response : Bytes} {tracking : Bool} {first : Entry T} {ok : Unit → Locals T → Log T → Prop}
    {err : Raised → Locals T → Log T → Prop}
    (hok : ∀ s' tried handle initial final value, parseCreateResponse response tracking = .ok handle →
      Authorized handle.context tried initial final value → s'.primaryError = s.primaryError →
      s'.initial = some initial → s'.final = some final → s'.consumerResult = some value →
      ok () s' (first :: tried))
    (herr : ∀ s' tried error, Tried (response.take contextSize) tried → err error s' (first :: tried)) :
    Op.Logged (authorize response tracking) s [first] ok err := by
  unfold authorize
  refine .bind (.lift (fun handle hhandle => ?_) fun error _ => herr _ [] error .nothing)
  rw [← context_parse hhandle] at herr
  refine .bind (setStage_meets (.bind (checkPolicy_meets ?_ ?_)))
  · intro asked initial hinitial
    refine .bind (.get (.bind (.set (.bind (raiseIf_meets ?_ fun error => herr _ _ error (.preflight _))))))
    intro hpasscode
    obtain ⟨hunsatisfied, htype⟩ := not_or.mp hpasscode
    rw [Bool.not_eq_true] at hunsatisfied
    have hasks : AsksPasscode asked := ⟨initial, hinitial, hunsatisfied, not_not.mp htype⟩
    refine .bind (setStage_meets (.bind (externalizeContext_meets ?_ fun reply error =>
      herr _ _ error (.externalize hasks reply))))
    refine .bind (setStage_meets (.bind (passwordBinder_meets ?_ fun error =>
      herr _ _ error (.bind hasks (.error error)))))
    refine .bind (setStage_meets (.bind (checkPolicy_meets ?_ fun reply error =>
      herr _ _ error (.final hasks reply))))
    intro answered final hfinal
    refine .bind (.get (.bind (.set (.bind (raiseIf_meets ?_ fun error =>
      herr _ _ error (.final hasks (.ok answered)))))))
    intro hsatisfied
    rw [Bool.not_eq_false] at hsatisfied
    have hlast : IsSatisfied answered := ⟨final, hfinal, hsatisfied⟩
    refine .bind (setStage_meets (.bind (consumer_meets ?_ fun error =>
      herr _ _ error (.consume hasks hlast (.error error)))))
    intro candidate
    refine .bind (settle_meets ?_ (fun error => herr _ _ error (.consume hasks hlast (.ok candidate))) ?_)
    · rintro value rfl
      refine .bind (.get (.set (hok _ _ handle initial final value hhandle ?_ rfl rfl rfl rfl)))
      exact ⟨asked, answered, hinitial, hunsatisfied, not_not.mp htype, hfinal, hsatisfied, rfl⟩
    · rintro rfl reply error
      exact herr _ _ error (.close hasks hlast reply)
  · exact fun reply error => herr _ _ error (.preflight reply)

/-- A context can be made of every sixteen bytes. -/
theorem make_cleanup {response : Bytes} (h : contextSize ≤ response.length) (tracking : Bool) :
    ∃ handle, ContextHandle.make (response.take contextSize) 0 tracking 0 = .ok handle := by
  have hlength : (response.take contextSize).length = contextSize := by
    rw [List.length_take]
    omega
  refine ⟨⟨response.take contextSize, 0, tracking, 0, hlength, Nat.zero_le _, Nat.zero_le _, fun _ => .inl rfl⟩, ?_⟩
  rw [ContextHandle.make, dif_pos hlength, dif_pos (Nat.zero_le _), dif_pos (Nat.zero_le _), dif_pos fun _ => .inl rfl]

theorem remember_meets {error : Raised} {ok : Unit → Locals T → Log T → Prop} {err : Raised → Locals T → Log T → Prop}
    (h : ok () { s with primaryError := some error } log) : Op.Logged (remember error) s log ok err := by
  unfold remember
  exact .bind (.get (.set h))

theorem cleanup_meets {handle : ContextHandle} {ok : Unit → Locals T → Log T → Prop}
    {err : Raised → Locals T → Log T → Prop} (hok : ok () s (log ++ [deleted handle.context (.ok [])]))
    (herr : ∀ reply error, err error s (log ++ [deleted handle.context reply])) :
    Op.Logged (cleanup handle) s log ok err := by
  unfold cleanup
  rw [buildDelete_eq]
  refine .bind (.pure (.bind (exchange_meets ?_ fun error => herr (.error error) error)))
  intro response
  refine raiseIf_meets (fun hempty => ?_) fun error => herr (.ok response) error
  rw [not_not.mp hempty]
  exact hok

theorem cleanupFailed_meets {error : Raised} {ok : Unit → Locals T → Log T → Prop}
    {err : Raised → Locals T → Log T → Prop} (h : ∀ error, err error s log) :
    Op.Logged (cleanupFailed error) s log ok err := by
  unfold cleanupFailed
  refine .bind (.get ?_)
  cases s.primaryError with
  | none => exact .raise (h _)
  | some primary => exact .raise (h _)

/-- **The whole call**: its log has its shape, and it returns behind a complete one only. -/
theorem withAuthorizedContext_meets (userId : Int) (tracking : Bool) :
    Op.Logged (withAuthorizedContext userId tracking : Code T _) locals []
      (fun answer _ log => Shape userId.toNat tracking log ∧
        Complete userId.toNat tracking log answer.1 answer.2.1 answer.2.2)
      fun _ _ log => Shape userId.toNat tracking log := by
  unfold withAuthorizedContext
  refine .bind (.lift (fun command hcommand => ?_) fun _ _ => .unsent)
  obtain rfl := buildCreate_ok hcommand
  refine .bind (exchange_meets ?_ fun error => .failed (.error error) nofun)
  intro response
  have hfailed : response.length < contextSize →
      Shape userId.toNat tracking [created (T := T) userId.toNat tracking (.ok response)] := by
    intro hshort
    refine .failed (.ok response) fun other hother => ?_
    rwa [← Except.ok.inj hother]
  refine .bind (.lift (fun _ hlong => ?_) fun error hshort => ?_)
  · have hlong : contextSize ≤ response.length := by
      by_contra hshort
      rw [raiseIf, if_pos (not_le.mp hshort)] at hlong
      exact nomatch hlong
    obtain ⟨cleanupHandle, hmake⟩ := make_cleanup hlong tracking
    have hcontext := context_make hmake
    rw [hmake]
    refine .bind (.pure (.bind (.except (authorize_meets ?_ ?_))))
    · -- the block was gone through
      intro s' tried handle initial final value hhandle hauthorized hprimary hinitial hfinal hvalue
      have htried : Tried (response.take contextSize) tried := by
        rw [← context_parse hhandle]
        obtain ⟨first, last, hfirst, hunsatisfied, htype, hlast, hsatisfied, rfl⟩ := hauthorized
        exact .consume ⟨initial, hfirst, hunsatisfied, htype⟩ ⟨final, hlast, hsatisfied⟩ _
      have hshape : ∀ reply, Shape userId.toNat tracking (created userId.toNat tracking (.ok response) ::
          (tried ++ [deleted (response.take contextSize) reply])) := fun reply => .cleaned hlong htried reply
      refine .bind (.except (cleanup_meets ?_ fun reply error => cleanupFailed_meets fun _ => ?_))
      · unfold conclude
        refine .bind (.get ?_)
        rw [hprimary, hinitial, hfinal, hvalue, hcontext]
        refine .pure ⟨hshape (.ok []), ?_⟩
        obtain ⟨first, last, hfirst, hunsatisfied, htype, hlast, hsatisfied, rfl⟩ := hauthorized
        refine ⟨response, handle, first, last, hhandle, hfirst, hunsatisfied, htype, hlast, hsatisfied, ?_⟩
        rw [context_parse hhandle]
        rfl
      · rw [hcontext]
        exact hshape reply
    · -- something was raised in it
      intro s' tried error htried
      have hshape : ∀ reply, Shape userId.toNat tracking (created userId.toNat tracking (.ok response) ::
          (tried ++ [deleted (response.take contextSize) reply])) := fun reply => .cleaned hlong htried reply
      refine remember_meets (.bind (.except (cleanup_meets ?_ fun reply error => cleanupFailed_meets fun _ => ?_)))
      · unfold conclude
        refine .bind (.get (.raise ?_))
        rw [hcontext]
        exact hshape (.ok [])
      · rw [hcontext]
        exact hshape reply
  · refine hfailed ?_
    by_contra hnot
    rw [raiseIf, if_neg hnot] at hshort
    exact nomatch hshort

/-! ## What follows -/

/-- A deletion. -/
def IsDelete (e : Entry T) : Prop :=
  ∃ command capacity, e.asked = .exchange command capacity ∧ opcodeOf command = opContextDelete

/-- The log begins with a creation whose response is long enough for a context. -/
def Created (log : Log T) (response : Bytes) : Prop :=
  ∃ userId tracking rest, log = created userId tracking (.ok response) :: rest ∧ contextSize ≤ response.length

/-- What was tried holds no deletion. -/
theorem not_delete_tried {context : Bytes} {tried : Log T} (h : Tried context tried) :
    ∀ e ∈ tried, ¬ IsDelete e := by
  have hpolicy : ∀ preflight reply, ¬ IsDelete (policyChecked context preflight reply : Entry T) := by
    rintro preflight reply ⟨_, _, ⟨⟩, hopcode⟩
    exact absurd hopcode (by decide : ¬ (opVerifyPolicy = opContextDelete))
  have hexternalized : ∀ reply, ¬ IsDelete (externalized context reply : Entry T) := by
    rintro reply ⟨_, _, ⟨⟩, hopcode⟩
    exact absurd hopcode (by decide : ¬ (opContextExternalize = opContextDelete))
  have hbound : ∀ reply, ¬ IsDelete (bound context reply : Entry T) := by
    rintro reply ⟨_, _, ⟨⟩, -⟩
  have hconsumed : ∀ reply, ¬ IsDelete (consumed context reply : Entry T) := by
    rintro reply ⟨_, _, ⟨⟩, -⟩
  have hclosed : ∀ reply, ¬ IsDelete (closed reply : Entry T) := by
    rintro reply ⟨_, _, ⟨⟩, -⟩
  cases h <;> simp [hpolicy, hexternalized, hbound, hconsumed, hclosed]

theorem not_delete_created (userId : Nat) (tracking : Bool) (reply : Except Raised Bytes) :
    ¬ IsDelete (created userId tracking reply : Entry T) := by
  rintro ⟨_, _, ⟨⟩, hopcode⟩
  cases tracking with
  | false => exact absurd hopcode (by decide : ¬ (opContextCreate = opContextDelete))
  | true => exact absurd hopcode (by decide : ¬ (opContextCreateTracking = opContextDelete))

/-- **One deletion, and the last command**: of the context that was created, if one was. -/
theorem deleted_once {userId : Nat} {tracking : Bool} {log : Log T} (h : Shape userId tracking log) :
    ((∃ e ∈ log, IsDelete e) ↔ ∃ response, Created log response) ∧
      ∀ response, Created log response → ∃ before reply,
        log = before ++ [deleted (response.take contextSize) reply] ∧ ∀ e ∈ before, ¬ IsDelete e := by
  cases h with
  | unsent =>
    refine ⟨iff_of_false (by simp) ?_, ?_⟩
    · rintro ⟨response, _, _, _, h, -⟩
      exact nomatch h
    · rintro response ⟨_, _, _, h, -⟩
      exact nomatch h
  | failed reply hshort =>
    have hnot : ∀ response, ¬ Created ([created userId tracking reply] : Log T) response := by
      rintro response ⟨userId', tracking', rest, h, hlong⟩
      have hreply : reply = .ok response := by
        injection h with h
        injection h with _ hreply
      exact absurd (hshort response hreply) (not_lt.mpr hlong)
    refine ⟨iff_of_false ?_ fun ⟨response, h⟩ => hnot response h, fun response h => absurd h (hnot response)⟩
    rintro ⟨e, he, hdelete⟩
    rw [List.mem_singleton.mp he] at hdelete
    exact not_delete_created _ _ _ hdelete
  | @cleaned response hlong tried htried reply =>
    have hdelete : IsDelete (deleted (response.take contextSize) reply : Entry T) := ⟨_, _, rfl, rfl⟩
    refine ⟨iff_of_true ⟨_, by simp, hdelete⟩ ⟨response, userId, tracking, _, rfl, hlong⟩, ?_⟩
    rintro other ⟨userId', tracking', rest, h, -⟩
    have hother : (.ok response : Except Raised Bytes) = .ok other := by
      injection h with h
      injection h with _ hreply
    obtain rfl := Except.ok.inj hother
    refine ⟨created userId tracking (.ok response) :: tried, reply, rfl, ?_⟩
    intro e he
    rcases List.mem_cons.mp he with rfl | he
    · exact not_delete_created _ _ _
    · exact not_delete_tried htried e he

/-- The binder is called once, behind the preflight that asks for the passcode and behind the externalization. -/
def BinderInOrder (before : Log T) (e : Entry T) : Prop :=
  ∀ form, e.asked = .passwordBinder form →
    (∀ earlier ∈ before, ∀ other, earlier.asked ≠ .passwordBinder other) ∧
    (∃ response, policyChecked form true (.ok response) ∈ before ∧ AsksPasscode response) ∧
    externalized form (.ok []) ∈ before

/-- The consumer is called once, behind the binder and behind the final check, which is satisfied. -/
def ConsumerInOrder (before : Log T) (e : Entry T) : Prop :=
  ∀ form, e.asked = .consumer form →
    (∀ earlier ∈ before, ∀ other, earlier.asked ≠ .consumer other) ∧
    bound form (.ok ()) ∈ before ∧
    ∃ response, policyChecked form false (.ok response) ∈ before ∧ IsSatisfied response

/-- The command is one that the client and the driver let through, with the capacity that the driver wants. -/
def Allowed (e : Entry T) : Prop :=
  ∀ command capacity, e.asked = .exchange command capacity →
    validateCommand command = .ok (opcodeOf command) ∧ commandAllowed command = true ∧
      responseCapacityAllowed (opcodeOf command) capacity (capacity ≠ 0) = true

theorem binder_quiet {e : Entry T} (h : ∀ form, e.asked ≠ .passwordBinder form) (before : Log T) :
    BinderInOrder before e :=
  fun form hform => absurd hform (h form)

theorem consumer_quiet {e : Entry T} (h : ∀ form, e.asked ≠ .consumer form) (before : Log T) :
    ConsumerInOrder before e :=
  fun form hform => absurd hform (h form)

/-- The binder is the fourth that is asked. -/
theorem binder_in_order {userId : Nat} {tracking : Bool} {log : Log T} (h : Shape userId tracking log) :
    Every BinderInOrder log := by
  cases h with
  | unsent => exact every_nil _
  | failed reply hshort =>
    refine every_of_all fun e he => binder_quiet ?_
    rw [List.mem_singleton.mp he]
    exact nofun
  | @cleaned response hlong tried htried reply =>
    have hbound : ∀ {first : Bytes} (_ : AsksPasscode first) (answer : Except Raised Unit),
        BinderInOrder [(created userId tracking (.ok response) : Entry T),
          policyChecked (response.take contextSize) true (.ok first),
          externalized (response.take contextSize) (.ok [])] (bound (response.take contextSize) answer) := by
      rintro first hfirst answer form ⟨⟩
      refine ⟨?_, ⟨first, by simp, hfirst⟩, by simp⟩
      simp [created, policyChecked, externalized]
    cases htried with
    | nothing => exact every_of_all fun e he => binder_quiet (by revert e; simp [created, deleted])
    | preflight answer =>
      exact every_of_all fun e he => binder_quiet (by revert e; simp [created, policyChecked, deleted])
    | externalize hfirst answer =>
      exact every_of_all fun e he => binder_quiet (by revert e; simp [created, policyChecked, externalized, deleted])
    | bind hfirst answer =>
      refine every_of_one (P := BinderInOrder) (fun e he => binder_quiet ?_) (hbound hfirst answer)
      revert e
      simp [created, policyChecked, externalized, deleted]
    | final hfirst answer =>
      refine every_of_one (P := BinderInOrder) (fun e he => binder_quiet ?_) (hbound hfirst (.ok ()))
      revert e
      simp [created, policyChecked, externalized, deleted]
    | consume hfirst hlast answer =>
      refine every_of_one (P := BinderInOrder) (fun e he => binder_quiet ?_) (hbound hfirst (.ok ()))
      revert e
      simp [created, policyChecked, externalized, consumed, deleted]
    | close hfirst hlast answer =>
      refine every_of_one (P := BinderInOrder) (fun e he => binder_quiet ?_) (hbound hfirst (.ok ()))
      revert e
      simp [created, policyChecked, externalized, consumed, closed, deleted]

/-- The consumer is the sixth. -/
theorem consumer_in_order {userId : Nat} {tracking : Bool} {log : Log T} (h : Shape userId tracking log) :
    Every ConsumerInOrder log := by
  cases h with
  | unsent => exact every_nil _
  | failed reply hshort =>
    refine every_of_all fun e he => consumer_quiet ?_
    rw [List.mem_singleton.mp he]
    exact nofun
  | @cleaned response hlong tried htried reply =>
    have hconsumed : ∀ {first last : Bytes} (_ : IsSatisfied last) (answer : Except Raised (Candidate T)),
        ConsumerInOrder [(created userId tracking (.ok response) : Entry T),
          policyChecked (response.take contextSize) true (.ok first),
          externalized (response.take contextSize) (.ok []), bound (response.take contextSize) (.ok ()),
          policyChecked (response.take contextSize) false (.ok last)]
          (consumed (response.take contextSize) answer) := by
      rintro first last hlast answer form ⟨⟩
      refine ⟨?_, by simp, ⟨last, by simp, hlast⟩⟩
      simp [created, policyChecked, externalized, bound]
    cases htried with
    | nothing => exact every_of_all fun e he => consumer_quiet (by revert e; simp [created, deleted])
    | preflight answer =>
      exact every_of_all fun e he => consumer_quiet (by revert e; simp [created, policyChecked, deleted])
    | externalize hfirst answer =>
      exact every_of_all fun e he => consumer_quiet (by revert e; simp [created, policyChecked, externalized, deleted])
    | bind hfirst answer =>
      exact every_of_all fun e he =>
        consumer_quiet (by revert e; simp [created, policyChecked, externalized, bound, deleted])
    | final hfirst answer =>
      exact every_of_all fun e he =>
        consumer_quiet (by revert e; simp [created, policyChecked, externalized, bound, deleted])
    | consume hfirst hlast answer =>
      refine every_of_one (P := ConsumerInOrder) (fun e he => consumer_quiet ?_) (hconsumed hlast answer)
      revert e
      simp [created, policyChecked, externalized, bound, deleted]
    | close hfirst hlast answer =>
      refine every_of_one (P := ConsumerInOrder) (fun e he => consumer_quiet ?_) (hconsumed hlast (.ok (.awaitable true)))
      revert e
      simp [created, policyChecked, externalized, bound, closed, deleted]

end Logs

section Allowed

/-- A request with this opcode. -/
def requestOf (opcode : UInt8) (body : Bytes) : Bytes := requestPrefix ++ [opcode, 0, 0, 1] ++ body

/-- What may stand behind the header: as many bytes as the opcode wants, and the fixed policy. -/
structure Body (opcode : UInt8) (body : Bytes) : Prop where
  length : expectedLength opcode = some (8 + body.length)
  policy : opcode = opVerifyPolicy → ∃ flag : UInt8, (flag = 0 ∨ flag = 1) ∧
    body.drop 16 = policyName ++ [flag] ++ List.replicate 8 0

variable {opcode : UInt8} {body : Bytes}

theorem length_requestOf (opcode : UInt8) (body : Bytes) : (requestOf opcode body).length = 8 + body.length := by
  rw [requestOf, List.length_append]
  rfl

/-- The client lets it through, … -/
theorem validateCommand_requestOf (h : Body opcode body) : validateCommand (requestOf opcode body) = .ok opcode := by
  have hsize := length_requestOf opcode body
  refine raiseIf_ok.mpr ⟨by omega, raiseIf_ok.mpr ⟨?_, raiseIf_ok.mpr ⟨?_, raiseIf_ok.mpr ⟨?_, rfl⟩⟩⟩⟩
  · rintro (h | h) <;> exact h rfl
  · rw [hsize]
    exact not_not.mpr h.length
  · rintro ⟨hop, hnot⟩
    obtain ⟨flag, hflag, hbody⟩ := h.policy hop
    have hdrop : (requestOf opcode body).drop 24 = body.drop 16 := rfl
    rw [hdrop, hbody] at hnot
    rcases hnot with hnot | hnot | hnot
    · exact hnot rfl
    · rcases hflag with rfl | rfl
      · exact hnot.1 rfl
      · exact hnot.2 rfl
    · exact hnot rfl

/-- … and so does the driver. -/
theorem commandAllowed_requestOf (h : Body opcode body) : commandAllowed (requestOf opcode body) = true := by
  have hsize := length_requestOf opcode body
  have hheader : ¬ ((requestOf opcode body).length < 8 ∨ (requestOf opcode body).take 4 ≠ requestPrefix ∨
      (requestOf opcode body).getD 5 0 ≠ 0 ∨ (requestOf opcode body).getD 6 0 ≠ 0 ∨
      (requestOf opcode body).getD 7 0 ≠ 1) := by
    rintro (h | h | h | h | h)
    · omega
    all_goals exact h rfl
  have hopcode : opcodeOf (requestOf opcode body) = opcode := rfl
  have hlength := h.length
  rw [commandAllowed, if_neg hheader, hopcode, hsize]
  change (if opcode = 0x01 ∨ opcode = 0x24 then some 12 else if opcode = 0x02 ∨ opcode = 0x13 then some 24
    else if opcode = 0x03 then some 51 else none) = some (8 + body.length) at hlength
  split at hlength
  · rename_i hcreate
    rw [if_pos hcreate, ← Option.some.inj hlength]
    rfl
  · rename_i hcreate
    rw [if_neg hcreate]
    split at hlength
    · rename_i hcontext
      rw [if_pos hcontext, ← Option.some.inj hlength]
      rfl
    · rename_i hcontext
      rw [if_neg hcontext]
      split at hlength
      · rename_i hpolicy
        rw [if_pos hpolicy, ← Option.some.inj hlength]
        obtain ⟨flag, hflag, hbody⟩ := h.policy hpolicy
        have hdrop : (requestOf opcode body).drop 24 = body.drop 16 := rfl
        have hflagged : (requestOf opcode body).getD 42 0 = (body.drop 16).getD 18 0 := by
          rw [← hdrop, List.getD_eq_getElem?_getD, List.getD_eq_getElem?_getD, List.getElem?_drop]
        have hzeros : (requestOf opcode body).drop 43 = (body.drop 16).drop 19 := by
          rw [← hdrop, List.drop_drop]
        rw [hflagged, hzeros, hdrop, hbody]
        rcases hflag with rfl | rfl <;> decide
      · exact nomatch hlength

theorem body_context {context : Bytes} (hlength : context.length = contextSize)
    (hopcode : expectedLength opcode = some 24) (hpolicy : opcode ≠ opVerifyPolicy) : Body opcode context where
  length := by
    rw [hopcode, hlength]
    rfl
  policy := fun h => absurd h hpolicy

theorem body_policy {context : Bytes} (hlength : context.length = contextSize) (preflight : Bool) :
    Body opVerifyPolicy (context ++ policyName ++ [if preflight then 1 else 0] ++ Bytes.le 4 0 ++ Bytes.le 4 0) where
  length := by
    simp only [List.length_append, hlength, Bytes.length_le]
    rfl
  policy := fun _ => by
    refine ⟨if preflight then 1 else 0, ?_, ?_⟩
    · cases preflight
      · exact .inl rfl
      · exact .inr rfl
    · have hdrop : context.length = 16 := hlength
      rw [List.append_assoc, List.append_assoc, List.append_assoc, List.drop_left' hdrop]
      cases preflight <;> rfl

theorem body_create (userId : Nat) (tracking : Bool) :
    Body (if tracking then opContextCreateTracking else opContextCreate) (Bytes.le 4 userId) where
  length := by
    rw [Bytes.length_le]
    cases tracking <;> rfl
  policy := by
    cases tracking <;> exact nofun

variable {T : Type}

/-- A request that may be sent with this capacity. -/
theorem allowed_requestOf (h : Body opcode body) {capacity : Nat}
    (hcapacity : responseCapacityAllowed opcode capacity (capacity ≠ 0) = true) (reply : Except Raised Bytes) :
    Allowed (⟨.exchange (requestOf opcode body) capacity, reply⟩ : Entry T) := by
  rintro command _ ⟨⟩
  exact ⟨validateCommand_requestOf h, commandAllowed_requestOf h, hcapacity⟩

theorem allowed_created (userId : Nat) (tracking : Bool) (reply : Except Raised Bytes) :
    Allowed (created userId tracking reply : Entry T) := by
  refine allowed_requestOf (body_create userId tracking) ?_ reply
  cases tracking <;> decide

theorem allowed_policyChecked {context : Bytes} (hlength : context.length = contextSize) (preflight : Bool)
    (reply : Except Raised Bytes) : Allowed (policyChecked context preflight reply : Entry T) := by
  have h : Allowed (⟨.exchange (requestOf opVerifyPolicy (context ++ policyName ++ [if preflight then 1 else 0] ++
      Bytes.le 4 0 ++ Bytes.le 4 0)) policyResponseCapacity, reply⟩ : Entry T) :=
    allowed_requestOf (body_policy hlength preflight) (by decide) reply
  have hrequest : policyRequest context preflight = requestOf opVerifyPolicy (context ++ policyName ++
      [if preflight then 1 else 0] ++ Bytes.le 4 0 ++ Bytes.le 4 0) := by
    simp only [policyRequest, requestOf, List.append_assoc]
  rw [policyChecked, hrequest]
  exact h

theorem allowed_externalized {context : Bytes} (hlength : context.length = contextSize)
    (reply : Except Raised Bytes) : Allowed (externalized context reply : Entry T) :=
  allowed_requestOf (body_context hlength rfl (by decide)) (by decide) reply

theorem allowed_deleted {context : Bytes} (hlength : context.length = contextSize)
    (reply : Except Raised Bytes) : Allowed (deleted context reply : Entry T) :=
  allowed_requestOf (body_context hlength rfl (by decide)) (by decide) reply

/-- **Every command may be sent.** -/
theorem all_allowed {userId : Nat} {tracking : Bool} {log : Log T} (h : Shape userId tracking log) :
    ∀ e ∈ log, Allowed e := by
  have hcreated := fun reply => allowed_created (T := T) userId tracking reply
  cases h with
  | unsent => exact nofun
  | failed reply hshort => simpa using hcreated reply
  | @cleaned response hlong tried htried reply =>
    have hlength : (response.take contextSize).length = contextSize := by
      rw [List.length_take]
      omega
    have hpolicy := fun preflight answer => allowed_policyChecked (T := T) hlength preflight answer
    have hexternalized := fun answer => allowed_externalized (T := T) hlength answer
    have hbound : ∀ answer, Allowed (bound (response.take contextSize) answer : Entry T) := by
      rintro answer command capacity ⟨⟩
    have hconsumed : ∀ answer, Allowed (consumed (response.take contextSize) answer : Entry T) := by
      rintro answer command capacity ⟨⟩
    have hclosed : ∀ answer, Allowed (closed answer : Entry T) := by
      rintro answer command capacity ⟨⟩
    have hall : ∀ e ∈ tried, Allowed e := by
      cases htried <;> simp [hpolicy, hexternalized, hbound, hconsumed, hclosed]
    intro e he
    rcases List.mem_cons.mp he with rfl | he
    · exact hcreated _
    rcases List.mem_append.mp he with he | he
    · exact hall e he
    · rw [List.mem_singleton.mp he]
      exact allowed_deleted hlength reply

end Allowed

/-! ## Result -/

/-- **A context is cleaned up.**  Whatever the device, the binder and the consumer reply: the context that was created
    is deleted once and last, and none is deleted otherwise; the binder is called at most once, behind a preflight that
    asks for the passcode and behind the externalization, and the consumer at most once, behind a satisfied final check;
    the call returns only behind a log in which every step succeeded; and every command is one that the client and the
    driver let through, with the capacity that the driver wants. -/
theorem context_cleaned_up {T : Type} (replier : Log T → (q : Question) → Reply T q) (userId : Int) (tracking : Bool) :
    let log := (play replier userId tracking).1
    let outcome := (play replier userId tracking).2.1
    (((∃ e ∈ log, IsDelete e) ↔ ∃ response, Created log response) ∧
      ∀ response, Created log response → ∃ before reply,
        log = before ++ [deleted (response.take contextSize) reply] ∧ ∀ e ∈ before, ¬ IsDelete e) ∧
    Every BinderInOrder log ∧ Every ConsumerInOrder log ∧
    (∀ initial final value, outcome = .returned (initial, final, value) →
      Complete userId.toNat tracking log initial final value) ∧
    ∀ e ∈ log, Allowed e := by
  have hmeets := withAuthorizedContext_meets (T := T) userId tracking
  obtain ⟨answer, houtcome, hshape, hcomplete⟩ | ⟨error, houtcome, hshape⟩ := hmeets.played replier
  · refine ⟨deleted_once hshape, binder_in_order hshape, consumer_in_order hshape, ?_, all_allowed hshape⟩
    intro initial final value h
    obtain rfl : answer = (initial, final, value) := Outcome.returned.inj (houtcome.symm.trans h)
    exact hcomplete
  · refine ⟨deleted_once hshape, binder_in_order hshape, consumer_in_order hshape, ?_, all_allowed hshape⟩
    intro initial final value h
    exact nomatch houtcome.symm.trans h

/-- A call in which everything succeeds asks seven times. -/
example : (play (fun
    | log, .exchange _ 0x1000 => .ok (if log.length = 1
        then [0, 0, 0, 0, 1, 0, 0, 0, 0, 0, 0, 0, 0, 0, 0, 0, 0, 0, 0, 0] else [1, 0, 0, 0])
    | _, .exchange _ 17 => .ok (List.replicate 17 7)
    | _, .exchange _ _ => .ok []
    | _, .passwordBinder _ => .ok ()
    | _, .consumer _ => .ok (.result 5)
    | _, .close => .ok () : Log Nat → (q : Question) → Reply Nat q) 1000 false).1.length = 7 := by decide

end T2TouchId.Acm.Context
