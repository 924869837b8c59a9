/-
  The inventory of the sensor, read twice over one connection (`src/t2_bridge_inventory.py`).

  1. **Data** — what is asked of the lease, and the inventory that is made of the replies.
  2. **One sweep** — `replyOutput` and `collectOnce`, with the retries of the first command.
  3. **Checks** — `validate`: everything that is asked of the replies together.
  4. **The call** — `collectStablePrivateInventory`; when anything is raised in it, the lease is invalidated.
-/
import T2TouchId.Bridge.Lease
import T2TouchId.Catacomb.Protocol

namespace T2TouchId.Bridge.E0

open T2TouchId.Python T2TouchId.Calls T2TouchId.User T2TouchId.Catacomb.Protocol
open T2TouchId.Bytes (slice)

/-! ## Data -/

/-- An attribute that could not be read: `AttributeError`, `TypeError` or `ValueError`, or another exception. -/
inductive Unread
  | missing
  | raised (error : Raised)
  deriving DecidableEq

inductive Question
  | connectionGeneration
  | biometricCommand (command : Command)
  | peerBootUuid
  | invalidate
  deriving DecidableEq

/-- The result of a command is what `reply, events = …` makes of it. -/
abbrev Reply : Question → Type
  | .connectionGeneration => Except Unread PyStr
  | .biometricCommand _ => Except Raised (Object × Object)
  | .peerBootUuid => Except Unread (Option PyStr)
  | .invalidate => Except Raised Unit

abbrev Entry : Type := Calls.Exchange Question Reply

abbrev Log : Type := List Entry

abbrev Code (α : Type) : Type := Op Question Reply Unit Raised α

inductive Name
  | protocol
  | globalIdentities
  | maximumCapacity
  | perUserIdentities
  | freeCapacity
  | catacombUuid
  | catacombHash
  | catacombState
  | sksLockState
  deriving DecidableEq

/-- The name in an error. -/
def Name.text : Name → String
  | .protocol => "protocol"
  | .globalIdentities => "global_identities"
  | .maximumCapacity => "maximum_capacity"
  | .perUserIdentities => "per_user_identities"
  | .freeCapacity => "free_capacity"
  | .catacombUuid => "catacomb_uuid"
  | .catacombHash => "catacomb_hash"
  | .catacombState => "catacomb_state"
  | .sksLockState => "sks_lock_state"

/-- A row of `COMMANDS`; without data the user's ID is sent. -/
structure Row where
  name : Name
  command : Nat
  staticData : Option Bytes
  capacity : Nat
  deriving DecidableEq

/-- `COMMANDS`. -/
def commands : List Row := [
  ⟨.protocol, 0x01, some [], 4⟩,
  ⟨.globalIdentities, 0x51, some [], 40 * 10⟩,
  ⟨.maximumCapacity, 0x0F, some [], 4⟩,
  ⟨.perUserIdentities, 0x42, none, 20 * 10⟩,
  ⟨.freeCapacity, 0x41, none, 4⟩,
  ⟨.catacombUuid, 0x38, none, 16⟩,
  ⟨.catacombHash, 0x3A, none, 33⟩,
  ⟨.catacombState, 0x3C, some [], 4096⟩,
  ⟨.sksLockState, 0x27, none, 4⟩]

/-- What a sweep has collected, with the status and the output of each reply. -/
abbrev Snapshot : Type := List (Name × Int × Bytes)

/-- `snapshot[name]`. -/
def Snapshot.get (snapshot : Snapshot) (name : Name) : Int × Bytes :=
  ((snapshot.find? fun item => item.1 = name).map Prod.snd).getD (0, [])

structure PerUserRecord where
  userId : Nat
  identityUuid : PyStr
  deriving DecidableEq

structure GlobalRecord where
  userId : Nat
  identityUuid : PyStr
  groupType : Nat
  groupUuid : PyStr
  deriving DecidableEq

structure StateRecord where
  kind : ComponentKind
  userId : Nat
  state : Nat
  needsSave : Bool
  deriving DecidableEq

/-- The dictionary that is returned; its constant items are left out. -/
structure Inventory where
  connectionGeneration : PyStr
  bridgeBootUuid : Option PyStr
  appleUid : Int
  perUserIdentityRecords : List PerUserRecord
  globalIdentityRecords : List GlobalRecord
  maximumCapacity : Nat
  configuredUserFreeCapacity : Nat
  catacombUuid : PyStr
  catacombPresent : Bool
  catacombHash : String
  catacombGlobalState : String
  catacombUserStates : List StateRecord
  sksLockStateRaw : Nat
  deriving DecidableEq

/-! ## One sweep -/

/-- `value == 0`. -/
def isZero : Object → Except Raised Bool
  | value => (value.ne 0).map (! ·)

/-- The commands whose output may be nil. -/
def Name.listsIdentities (name : Name) : Prop := name = .globalIdentities ∨ name = .perUserIdentities

instance (name : Name) : Decidable name.listsIdentities := inferInstanceAs (Decidable (_ ∨ _))

/-- The nil output of a list of identities is an empty one. -/
def outputOf (name : Name) (status output : Object) : Except Raised Object :=
  if name.listsIdentities then do
    let zero ← isZero status
    return if zero = true ∧ isBiometricNilOutput output = true then .bytes [] else output
  else .ok output

/-- The last check of `_reply_output`. -/
def checkReply (name : Name) (allowNonzero : Bool) (status output : Object) : Except Raised (Int × Bytes) :=
  match status, output with
  | .int status, .bytes data => do
    raiseIf (¬ (-(2 ^ 31) ≤ status ∧ status < 2 ^ 32) ∨ (status ≠ 0 ∧ allowNonzero = false))
      (.own (name.text ++ " reply is invalid"))
    return (status, data)
  | _, _ => .error (.own (name.text ++ " reply is invalid"))

/-- `_reply_output`, with the status of the reply. -/
def replyOutput (reply : Object) (name : Name) (allowNonzero : Bool) : Except Raised (Int × Bytes) :=
  match reply with
  | .list [status, output] => do
    let output ← outputOf name status output
    checkReply name allowNonzero status output
  | _ => .error (.own (name.text ++ " reply is malformed"))

def commandOf (appleUserId : Int) (row : Row) : Command :=
  ⟨row.command, 1, row.staticData.getD (Bytes.le 4 appleUserId.toNat), row.capacity⟩

/-- `type(events) is not list or events`. -/
def hasEvents : Object → Bool
  | .list [] => false
  | _ => true

/-- A command, and what is asked of its reply. -/
def attempt (appleUserId : Int) (generation : PyStr) (row : Row) (allowNonzero : Bool) (what : String) :
    Code (Int × Bytes) := do
  let reply ← (Op.ask (Question.biometricCommand (commandOf appleUserId row)) :
    Op Question Reply Unit Raised (Except Raised (Object × Object)))
  let reply ← Op.lift reply
  let again ← (Op.ask Question.connectionGeneration : Op Question Reply Unit Raised (Except Unread PyStr))
  let again ← Op.lift (again.mapError fun _ => Raised.other)
  Op.lift (raiseIf (again ≠ generation) (.own "Bridge generation changed during E0"))
  Op.lift (raiseIf (hasEvents reply.2 = true) (.own (what ++ " emitted an unexpected service event")))
  Op.lift (replyOutput reply.1 row.name allowNonzero)

/-- The retries of the first command. -/
def retry (appleUserId : Int) (generation : PyStr) (row : Row) : Nat → Int × Bytes → Code (Int × Bytes)
  | 0, answer => pure answer
  | left + 1, answer =>
    if answer.2.length = 4 then pure answer
    else do
      let answer ← attempt appleUserId generation row true "protocol retry"
      retry appleUserId generation row left answer

/-- The commands that may return a status other than zero. -/
def Name.mayRefuse (name : Name) : Bool := name = .protocol ∨ name = .catacombUuid ∨ name = .catacombHash

/-- A round of the loop of `_collect_once`. -/
def collectRow (appleUserId : Int) (generation : PyStr) (row : Row) : Code (Name × Int × Bytes) := do
  let answer ← attempt appleUserId generation row row.name.mayRefuse row.name.text
  let answer ← if row.name = .protocol then retry appleUserId generation row 2 answer else pure answer
  return (row.name, answer)

/-- The loop. -/
def collectRows (appleUserId : Int) (generation : PyStr) : List Row → Code Snapshot
  | [] => pure []
  | row :: rows => do
    let first ← collectRow appleUserId generation row
    let rest ← collectRows appleUserId generation rows
    return first :: rest

/-- `_collect_once`. -/
def collectOnce (appleUserId : Int) (generation : PyStr) : Code Snapshot :=
  collectRows appleUserId generation commands

/-! ## Checks -/

/-- `_records`. -/
def recordsOf (output : Bytes) (size : Nat) (name : String) : Except Raised (List Bytes) := do
  raiseIf (output.length % size ≠ 0) (.own (name ++ " record bytes are malformed"))
  return Bytes.records size (output.length / size) output

/-- `struct.unpack_from("<I", record)`. -/
def userOf (record : Bytes) : Nat := Bytes.leNat (slice record 0 4)

/-- The user's records in a list of global ones, without their groups. -/
def configuredOf (appleUserId : Int) (globalRecords : List Bytes) : List Bytes :=
  (globalRecords.filter fun record => (userOf record : Int) = appleUserId).map fun record => record.take 20

/-- `any(…)`. -/
def anyByte (data : Bytes) : Bool := data.any (· ≠ 0)

/-- What the checks take out of a snapshot. -/
structure Parts where
  globalRecords : List Bytes
  userRecords : List Bytes
  maximum : Nat
  free : Nat
  catacombUuid : Bytes
  catacombHash : Bytes
  catacombState : Bytes
  catacombStates : List CatacombState
  sksState : Bytes

/-- `catacomb_missing`. -/
def Missing (first : Snapshot) (globalRecords userRecords : List Bytes) : Prop :=
  (first.get .catacombUuid).1 = 22 ∧ (first.get .catacombHash).1 = 22 ∧
    anyByte (first.get .catacombUuid).2 = false ∧ anyByte (first.get .catacombHash).2 = false ∧
    globalRecords = [] ∧ userRecords = []

instance (first : Snapshot) (globalRecords userRecords : List Bytes) :
    Decidable (Missing first globalRecords userRecords) := inferInstanceAs (Decidable (_ ∧ _))

/-- The body of `collect_stable_private_inventory` behind the two sweeps. -/
def validate (appleUserId : Int) (first : Snapshot) : Except Raised Parts := do
  let globalRecords ← recordsOf (first.get .globalIdentities).2 40 "global identity"
  let userRecords ← recordsOf (first.get .perUserIdentities).2 20 "per-user identity"
  raiseIf ((configuredOf appleUserId globalRecords).toFinset ≠ userRecords.toFinset)
    (.own "global and per-user identities disagree")
  raiseIf (∃ record ∈ userRecords, (userOf record : Int) ≠ appleUserId)
    (.own "per-user inventory contains another Apple user")
  let protocol := first.get .protocol
  raiseIf (¬ (protocol.1 = 0 ∧ protocol.2.length = 4 ∧ Bytes.leNat protocol.2 = 2) ∧
    (first.get .globalIdentities).1 ≠ 0) (.own "biometric protocol v2 is not attested")
  let maximumOutput := (first.get .maximumCapacity).2
  let freeOutput := (first.get .freeCapacity).2
  let catacombUuid := (first.get .catacombUuid).2
  let catacombHash := (first.get .catacombHash).2
  let catacombState := (first.get .catacombState).2
  let sksState := (first.get .sksLockState).2
  raiseIf (maximumOutput.length ≠ 4 ∨ freeOutput.length ≠ 4) (.own "capacity reply length is invalid")
  raiseIf (catacombUuid.length ≠ 16) (.own "Catacomb UUID reply is invalid")
  raiseIf (catacombHash.length ≠ 33) (.own "Catacomb hash reply is invalid")
  raiseIf (¬ Missing first globalRecords userRecords ∧
      ((first.get .catacombUuid).1 ≠ 0 ∨ (first.get .catacombHash).1 ≠ 0))
    (.own "Catacomb metadata status is invalid")
  raiseIf (anyByte catacombUuid = false ∧
      (globalRecords ≠ [] ∨ userRecords ≠ [] ∨ catacombHash.getD 0 0 ≠ 0))
    (.own "Catacomb UUID reply is inconsistent")
  let catacombStates ← (parseUserStates catacombState).mapError fun _ =>
    Raised.own "Catacomb state reply is invalid"
  let selected ← (CatacombComponent.user appleUserId).mapError fun _ => Raised.other
  let masterCount := (catacombStates.filter fun record => record.component = .master).length
  let selectedCount := (catacombStates.filter fun record => record.component = selected).length
  raiseIf (¬ (masterCount = 1 ∧ selectedCount = if Missing first globalRecords userRecords then 0 else 1) ∨
      (Missing first globalRecords userRecords ∧ catacombStates.length ≠ 1))
    (.own "Catacomb state does not contain unique master and selected-user records")
  raiseIf (sksState.length ≠ 4) (.own "SKS state reply is invalid")
  let maximum := Bytes.leNat maximumOutput
  let free := Bytes.leNat freeOutput
  raiseIf (maximum > 64 ∨ free > maximum ∨ userRecords.length > maximum) (.own "identity capacity is inconsistent")
  return ⟨globalRecords, userRecords, maximum, free, catacombUuid, catacombHash, catacombState, catacombStates,
    sksState⟩

/-! ## The call -/

/-- `str(uuid.UUID(bytes=…))`. -/
def uuidText (data : Bytes) : PyStr := uuidStr (Bytes.beNat data)

def perUserRecord (record : Bytes) : PerUserRecord := ⟨userOf record, uuidText (slice record 4 16)⟩

def globalRecord (record : Bytes) : GlobalRecord :=
  ⟨userOf record, uuidText (slice record 4 16), Bytes.leNat (slice record 20 4), uuidText (slice record 24 16)⟩

def stateRecord (record : CatacombState) : StateRecord :=
  ⟨record.component.kind, record.component.userId, record.state, record.needsSave⟩

/-- The dictionary. -/
def assemble (generation : PyStr) (bootUuid : Option PyStr) (appleUserId : Int) (parts : Parts) : Inventory where
  connectionGeneration := generation
  bridgeBootUuid := bootUuid
  appleUid := appleUserId
  perUserIdentityRecords := parts.userRecords.map perUserRecord
  globalIdentityRecords := parts.globalRecords.map globalRecord
  maximumCapacity := parts.maximum
  configuredUserFreeCapacity := parts.free
  catacombUuid := uuidText parts.catacombUuid
  catacombPresent := parts.catacombHash.getD 0 0 ≠ 0
  catacombHash := Bytes.hex (parts.catacombHash.drop 1)
  catacombGlobalState := Bytes.hex parts.catacombState
  catacombUserStates := parts.catacombStates.map stateRecord
  sksLockStateRaw := Bytes.leNat parts.sksState

/-- A generation is the text of a UUID. -/
def readGeneration (reading : Except Unread PyStr) : Except Raised PyStr :=
  match reading with
  | .ok generation =>
    if ¬ uuidParses generation then .error (.own "Bridge generation is invalid")
    else if uuidStr (uuidInt generation) ≠ generation then .error (.own "Bridge generation is not canonical")
    else .ok generation
  | .error .missing => .error (.own "Bridge generation is invalid")
  | .error (.raised error) => .error error

/-- A boot UUID is one, if there is any. -/
def readBootUuid (reading : Except Unread (Option PyStr)) : Except Raised (Option PyStr) :=
  match reading with
  | .ok none => .ok none
  | .ok (some bootUuid) =>
    if ¬ uuidParses bootUuid then .error (.own "Bridge boot UUID is invalid")
    else if uuidStr (uuidInt bootUuid) ≠ bootUuid then .error (.own "Bridge boot UUID is not canonical")
    else .ok (some bootUuid)
  | .error .missing => .error .other
  | .error (.raised error) => .error error

/-- The `try` block. -/
def collect (appleUserId : Int) (generation : PyStr) : Code Inventory := do
  let first ← collectOnce appleUserId generation
  let second ← collectOnce appleUserId generation
  Op.lift (raiseIf (first ≠ second) (.own "E0 inventory changed between collections"))
  let parts ← Op.lift (validate appleUserId first)
  let reading ← (Op.ask Question.peerBootUuid : Op Question Reply Unit Raised (Except Unread (Option PyStr)))
  let bootUuid ← Op.lift (readBootUuid reading)
  return assemble generation bootUuid appleUserId parts

/-- `except BaseException`: the lease is invalidated, whatever comes of it. -/
def abandon (error : Raised) : Code Inventory := do
  let _ ← (Op.ask Question.invalidate : Op Question Reply Unit Raised (Except Raised Unit))
  match error with
  | .own text => Op.raise (.own text)
  | .other => Op.raise (.own "same-connection E0 collection failed")

/-- `collect_stable_private_inventory`. -/
def collectStablePrivateInventory (appleUserId : Int) : Code Inventory := do
  Op.lift (raiseIf (¬ (0 ≤ appleUserId ∧ appleUserId ≤ 0xFFFFFFFF)) (.own "Apple user ID is outside uint32 range"))
  let reading ← (Op.ask Question.connectionGeneration : Op Question Reply Unit Raised (Except Unread PyStr))
  let generation ← Op.lift (readGeneration reading)
  Op.except (collect appleUserId generation) abandon

/-- A call whose lease replies as it likes. -/
def play (replier : Log → (q : Question) → Reply q) (appleUserId : Int) : Log × Outcome Raised Inventory :=
  let run := (collectStablePrivateInventory appleUserId ()).play replier []
  (run.1, run.2.1)

end T2TouchId.Bridge.E0
