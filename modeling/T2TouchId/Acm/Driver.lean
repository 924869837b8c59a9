/-
  The credential manager of the sensor as the kernel driver offers it (`src/t2_sep_transport.c`, endpoint
  10, and `src/t2_acm_lifecycle.h`).

  One process at a time may open the device and exchange commands: create a context, ask its policy,
  hand it out, delete it.  The driver remembers the context that it has seen created; once it cannot
  know what the sensor holds, it is poisoned and sends nothing until the next boot.

  1. **Data** — `Driver`: the fields of `t2_sep_transport` that the device uses.  `Mailbox`: what the
     hardware does in one exchange.
  2. **Program** — the two decisions of the header, `exchangeLocked`, and the three file operations.
     Each returns with the driver it leaves and the command it has sent, if any.

  The mutex makes each operation one step.  A request is the bytes that `memdup_user` has copied, so its
  length is that of the list.
-/
import T2TouchId.Bytes

namespace T2TouchId.Acm

inductive Errno
  | perm
  | intr
  | noMemory
  | access
  | fault
  | busy
  | invalid
  | notTty
  | noSpace
  | overflow
  | proto
  | shutdown
  | timedOut
  | stale
  deriving DecidableEq

/-- `T2_SEP_OOL_SIZE`. -/
def oolSize : Nat := 0x4000

/-- `T2_ACM_CONTEXT_SIZE`. -/
def contextSize : Nat := 16

/-- `T2_ACM_POLICY_RESPONSE_SIZE`. -/
def policyResponseSize : Nat := 0x1000

/-- `T2_SEP_ACM_ENDPOINT`. -/
def acmEndpoint : Nat := 10

/-! ## Decisions -/

inductive ContextPreflight
  | allow
  | busy
  | stale
  | matchRequired
  | deny
  deriving DecidableEq

inductive ReplyAction
  | accept
  | reject
  | poison
  | setContext
  | setContextAndReject
  | clearContext
  | clearContextAndReject
  deriving DecidableEq

/-- `t2_acm_context_preflight`. -/
def contextPreflight (opcode : UInt8) (contextActive : Bool) : ContextPreflight :=
  if opcode = 0x01 ∨ opcode = 0x24 then if contextActive then .busy else .allow
  else if opcode = 0x02 ∨ opcode = 0x03 ∨ opcode = 0x13 then
    if contextActive then .matchRequired else .stale
  else .deny

/-- `t2_acm_response_capacity_allowed`. -/
def responseCapacityAllowed (opcode : UInt8) (capacity : Nat) (hasBuffer : Bool) : Bool :=
  if opcode = 0x01 then capacity = 17 && hasBuffer
  else if opcode = 0x24 then capacity = 21 && hasBuffer
  else if opcode = 0x02 ∨ opcode = 0x13 then capacity = 0 && !hasBuffer
  else if opcode = 0x03 then capacity = policyResponseSize && hasBuffer
  else false

/-- `t2_acm_reply_action`. -/
def replyAction (opcode : UInt8) (responseLength : Nat) (responseInfo : UInt32) : ReplyAction :=
  if responseInfo ≠ 0 then .accept
  else if opcode = 0x01 ∨ opcode = 0x24 then
    let expected := if opcode = 0x01 then 17 else 21
    if responseLength < contextSize then .poison
    else if responseLength = expected then .setContext
    else .setContextAndReject
  else if opcode = 0x02 then
    if responseLength = 0 then .clearContext else .clearContextAndReject
  else if opcode = 0x13 then
    if responseLength = 0 then .accept else .reject
  else if opcode = 0x03 then
    if 4 ≤ responseLength ∧ responseLength ≤ policyResponseSize then .accept else .reject
  else .reject

/-- `request[4]`. -/
def opcodeOf (request : Bytes) : UInt8 := request.getD 4 0

/-- The context that stands behind the header of a request. -/
def contextOf (request : Bytes) : Bytes := (request.drop 8).take contextSize

/-- `"DRCS"`. -/
def requestPrefix : Bytes := [0x44, 0x52, 0x43, 0x53]

/-- The request of the cleanup. -/
def deleteRequest (context : Bytes) : Bytes := requestPrefix ++ [0x02, 0, 0, 1] ++ context

/-- `"TouchIdEnrollment\0"`. -/
def policyName : Bytes :=
  [0x54, 0x6F, 0x75, 0x63, 0x68, 0x49, 0x64, 0x45, 0x6E, 0x72, 0x6F, 0x6C, 0x6C, 0x6D, 0x65, 0x6E,
   0x74, 0x00]

/-- `t2_acm_command_allowed`. -/
def commandAllowed (request : Bytes) : Bool :=
  if request.length < 8 ∨ request.take 4 ≠ requestPrefix ∨ request.getD 5 0 ≠ 0
      ∨ request.getD 6 0 ≠ 0 ∨ request.getD 7 0 ≠ 1 then false
  else if opcodeOf request = 0x01 ∨ opcodeOf request = 0x24 then request.length = 12
  else if opcodeOf request = 0x02 ∨ opcodeOf request = 0x13 then request.length = 24
  else if opcodeOf request = 0x03 then
    request.length = 51 ∧ (request.drop 24).take 18 = policyName ∧ request.getD 42 0 ≤ 1
      ∧ (request.drop 43).take 8 = List.replicate 8 0
  else false

/-! ## The driver -/

/-- The device, and the context that the driver knows of. -/
structure Driver where
  opened : Bool
  generation : UInt64
  poisoned : Bool
  contextActive : Bool
  context : Bytes
  deriving DecidableEq

/-- The driver when it has registered the endpoint. -/
def Driver.initial : Driver where
  opened := false
  generation := 1
  poisoned := false
  contextActive := false
  context := List.replicate contextSize 0

/-- The first two words of a message, the buffer of the endpoint apart. -/
structure Message where
  header : UInt32
  info : UInt32

namespace Message

def endpoint (m : Message) : Nat := m.header.toNat % 0x100

def code (m : Message) : Nat := m.header.toNat / 0x100 % 0x100

/-- The length of the reply. -/
def length (m : Message) : Nat := m.header.toNat / 0x10000

end Message

/-- What the hardware does in one exchange: whether it takes the command, the messages that arrive before
    a receive times out, and the buffer when the reply is read. -/
structure Mailbox where
  sends : Bool
  inbox : List Message
  oolOut : { bytes : Bytes // bytes.length = oolSize }

/-- A reply that was received. -/
structure Reply where
  body : Bytes
  info : UInt32

namespace Driver

/-- `t2_acm_clear_context_locked`. -/
def clearContext (d : Driver) : Driver :=
  { d with context := List.replicate contextSize 0, contextActive := false }

/-- `t2_acm_poison_locked`. -/
def poison (d : Driver) : Driver :=
  let generation := d.generation + 1
  clearContext { d with
    poisoned := true, generation := if generation = 0 then generation + 1 else generation }

def setContext (d : Driver) (response : Bytes) : Driver :=
  { d with context := response.take contextSize, contextActive := true }

/-- `t2_acm_validate_context_locked`. -/
def validateContext (d : Driver) (request : Bytes) : Except Errno Unit :=
  match contextPreflight (opcodeOf request) d.contextActive with
  | .allow => .ok ()
  | .busy => .error .busy
  | .stale => .error .stale
  | .matchRequired => if contextOf request = d.context then .ok () else .error .access
  | .deny => .error .access

/-- `t2_acm_record_reply_locked`. -/
def recordReply (d : Driver) (request : Bytes) (reply : Reply) : Except Errno Unit × Driver :=
  match replyAction (opcodeOf request) reply.body.length reply.info with
  | .accept => (.ok (), d)
  | .reject => (.error .proto, d)
  | .poison => (.error .proto, d.poison)
  | .setContext => (.ok (), d.setContext reply.body)
  | .setContextAndReject => (.error .proto, d.setContext reply.body)
  | .clearContext => (.ok (), d.clearContext)
  | .clearContextAndReject => (.error .proto, d.clearContext)

end Driver

/-! ## One exchange -/

/-- The loop that waits for the reply. -/
def receiveReply (requestCode : Nat) : Nat → List Message → Except Errno Message
  | _, [] => .error .timedOut
  | skipped, message :: rest =>
    if message.endpoint = acmEndpoint ∧ message.code = requestCode then .ok message
    else if skipped + 1 = 32 then .error .overflow
    else receiveReply requestCode (skipped + 1) rest

/-- What an operation leaves: its result, the driver, and the command that was sent. -/
structure Done (α : Type) where
  result : Except Errno α
  driver : Driver
  sent : Option Bytes := none

/-- `t2_acm_exchange_locked`. -/
def Driver.exchangeLocked (d : Driver) (requestCode : Nat) (requestInfo : UInt32) (request : Bytes)
    (mailbox : Mailbox) : Done Reply :=
  if requestCode ≠ 1 ∨ requestInfo ≠ 0 ∨ oolSize < request.length ∨ ¬ commandAllowed request then
    ⟨.error .access, d, none⟩
  else if ¬ mailbox.sends then ⟨.error .timedOut, d, some request⟩
  else
    match receiveReply requestCode 0 mailbox.inbox with
    | .error error => ⟨.error error, d.poison, some request⟩
    | .ok message =>
      if oolSize < message.length then ⟨.error .proto, d.poison, some request⟩
      else ⟨.ok ⟨mailbox.oolOut.val.take message.length, message.info⟩, d, some request⟩

/-! ## File operations -/

inductive IoctlCommand
  | getInfo
  | exchange
  | other
  deriving DecidableEq

/-- `t2_acm_ioc_exchange`, with the bytes at `request`. -/
structure Exchange where
  requestCode : UInt8
  reserved : List UInt8
  request : Bytes
  requestIsNull : Bool
  responseCapacity : Nat
  responseIsNull : Bool
  requestInfo : UInt32
  generation : UInt64

/-- One call, and what the kernel gives it: the structure is copied or not, the request is copied or not,
    the lock is taken or the wait interrupted, and the results are copied or not. -/
structure IoctlCall where
  capable : Bool
  command : IoctlCommand
  exchange : Option Exchange
  memdup : Option Errno
  locked : Bool
  copiesResponse : Bool
  copiesExchange : Bool

/-- `if (copy_to_user(...)) ret = -EFAULT`. -/
def copyBack (call : IoctlCall) (result : Except Errno Unit) : Except Errno Unit :=
  if call.copiesExchange then result else .error .fault

namespace Driver

/-- The exchange, under the lock. -/
def ioctlLocked (d : Driver) (call : IoctlCall) (exchange : Exchange) (mailbox : Mailbox) : Done Unit :=
  if exchange.generation ≠ d.generation then ⟨copyBack call (.error .stale), d, none⟩
  else if d.poisoned then ⟨.error .shutdown, d, none⟩
  else
    match d.validateContext exchange.request with
    | .error error => ⟨.error error, d, none⟩
    | .ok () =>
      let exchanged := d.exchangeLocked exchange.requestCode.toNat exchange.requestInfo exchange.request
        mailbox
      match exchanged.result with
      | .error error => ⟨.error error, exchanged.driver, exchanged.sent⟩
      | .ok reply =>
        let (recorded, d) := exchanged.driver.recordReply exchange.request reply
        match recorded with
        | .error error => ⟨copyBack call (.error error), d, exchanged.sent⟩
        | .ok () =>
          if exchange.responseCapacity < reply.body.length then
            ⟨copyBack call (.error .noSpace), d, exchanged.sent⟩
          else if reply.body ≠ [] ∧ ¬ call.copiesResponse then ⟨.error .fault, d, exchanged.sent⟩
          else ⟨copyBack call (.ok ()), d, exchanged.sent⟩

/-- `t2_acm_ioctl`. -/
def ioctl (d : Driver) (call : IoctlCall) (mailbox : Mailbox) : Done Unit :=
  if ¬ call.capable then ⟨.error .perm, d, none⟩
  else
    match call.command with
    | .getInfo => ⟨if call.locked then copyBack call (.ok ()) else .error .intr, d, none⟩
    | .other => ⟨.error .notTty, d, none⟩
    | .exchange =>
      match call.exchange with
      | none => ⟨.error .fault, d, none⟩
      | some exchange =>
        if ¬ exchange.reserved.all (· = 0) ∨ exchange.request.length = 0
            ∨ oolSize < exchange.request.length ∨ oolSize < exchange.responseCapacity
            ∨ exchange.requestIsNull then ⟨.error .invalid, d, none⟩
        else
          match call.memdup with
          | some error => ⟨.error error, d, none⟩
          | none =>
            if ¬ commandAllowed exchange.request
                ∨ ¬ responseCapacityAllowed (opcodeOf exchange.request) exchange.responseCapacity
                  (!exchange.responseIsNull) then ⟨.error .access, d, none⟩
            else if ¬ call.locked then ⟨.error .intr, d, none⟩
            else d.ioctlLocked call exchange mailbox

/-- `t2_acm_open`; `nonseekable_open` may fail. -/
def openFile (d : Driver) (capable nonseekable : Bool) : Done Unit :=
  if ¬ capable then ⟨.error .perm, d, none⟩
  else if d.opened then ⟨.error .busy, d, none⟩
  else if nonseekable then ⟨.ok (), { d with opened := true }, none⟩
  else ⟨.error .noMemory, { d with opened := false }, none⟩

/-- `t2_acm_release`. -/
def release (d : Driver) (mailbox : Mailbox) : Done Unit :=
  if d.contextActive ∧ ¬ d.poisoned then
    let exchanged := d.exchangeLocked 1 0 (deleteRequest d.context) mailbox
    let d := match exchanged.result with
      | .ok reply =>
        if reply.info = 0 ∧ reply.body = [] then exchanged.driver.clearContext
        else if exchanged.driver.poisoned then exchanged.driver else exchanged.driver.poison
      | .error _ => if exchanged.driver.poisoned then exchanged.driver else exchanged.driver.poison
    ⟨.ok (), { d with opened := false }, exchanged.sent⟩
  else ⟨.ok (), { d with opened := false }, none⟩

end Driver

end T2TouchId.Acm
