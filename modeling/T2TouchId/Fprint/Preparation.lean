/-
  Preparing a match gate (`src/t2_fprint_match_gate.py`, `src/t2_fprint_match_selection.py`).

  A gate is prepared of the local Catacomb and of two live inventories, each read twice: the identity records
  of the user, and those of all users.  It is handed out where all of them agree.

  1. **Inventories** — `perUserRecords` and `globalRecords`, the loops over what was read.
  2. **Selection** — `select` resolves a finger name.
  3. **Gates** — `prepare`, `prepareAll` and `prepareSlots`.
-/
import T2TouchId.Catacomb.Codec
import T2TouchId.Fprint.MatchGate
import T2TouchId.User.UuidBytes

namespace T2TouchId.Fprint

open T2TouchId.Python T2TouchId.User
open T2TouchId.Catacomb.Codec (Identity UserCatacomb)

/-- What the gates raise. -/
inductive GateError
  /-- `FprintMatchGateError`. -/
  | gate (message : String)
  | keyError
  deriving DecidableEq

/-! ## Inventories -/

/-- An inventory as it is handed in: nothing, where it is no tuple; of its records, nothing where one is not
    `bytes`. -/
abbrev Handed := Option (List (Option Bytes))

/-- The local components: nothing, where they are no dictionary; of their contents, nothing where one is not
    `bytes`. -/
abbrev HandedComponents := Option (List (String × Option Bytes))

/-- The body of the loop of `_component_hashes`. -/
def componentHash (item : String × Option Bytes) : Except GateError (String × String) :=
  match item.2 with
  | some data =>
    if data = [] then .error (.gate "local Catacomb component is invalid") else .ok (item.1, (sha256 data).hex)
  | none => .error (.gate "local Catacomb component is invalid")

/-- `_component_hashes`. -/
def componentHashes (components : HandedComponents) : Except GateError ComponentHashes :=
  match components with
  | none => .error (.gate "local Catacomb component set is invalid")
  | some items => do
    raiseIf (items = []) (.gate "local Catacomb component set is invalid")
    (items.insertionSort fun a b => a.1 ≤ b.1).mapM componentHash

/-- `struct.unpack_from("<I", record)[0]`, the user of a record. -/
def recordUser (record : Bytes) : Nat := Bytes.leNat (record.take 4)

/-- The body of the loop of `_per_user_records`. -/
def perUserRecord (appleUserId : Nat) (seen : List Bytes) (record : Option Bytes) : Except GateError (List Bytes) :=
  match record with
  | none => .error (.gate "per-user identity record is malformed")
  | some record => do
    raiseIf (record.length ≠ 20) (.gate "per-user identity record is malformed")
    raiseIf (recordUser record ≠ appleUserId) (.gate "per-user identity record belongs to another Apple user")
    raiseIf (Bytes.beNat (recordUuid record) = 0 ∨ record ∈ seen)
      (.gate "per-user identity inventory is empty-authority or duplicated")
    return seen ++ [record]

/-- `_per_user_records`: the records that were seen are those of the tuple. -/
def perUserRecords (value : Handed) (appleUserId : Nat) : Except GateError (List Bytes) :=
  match value with
  | none => .error (.gate "per-user identity inventory is invalid")
  | some records => records.foldlM (perUserRecord appleUserId) []

/-- The records of all users, and the identities of the one user among them. -/
structure GlobalRecords where
  records : List Bytes
  configured : List Bytes
  deriving DecidableEq

/-- `record[:20]`. -/
def identityPart (record : Bytes) : Bytes := record.take 20

/-- The group of a record: `struct.unpack_from("<I", record, 20)[0]`. -/
def groupType (record : Bytes) : Nat := Bytes.leNat ((record.drop 20).take 4)

/-- `uuid.UUID(bytes=record[24:40]).int`. -/
def groupUuid (record : Bytes) : Nat := Bytes.beNat ((record.drop 24).take 16)

/-- The body of the loop of `_global_records`; `seen` holds the identities of the records. -/
def globalRecord (appleUserId : Nat) (found : GlobalRecords) (record : Option Bytes) :
    Except GateError GlobalRecords :=
  match record with
  | none => .error (.gate "global identity record is malformed")
  | some record => do
    raiseIf (record.length ≠ 40) (.gate "global identity record is malformed")
    raiseIf (Bytes.beNat (recordUuid (identityPart record)) = 0
        ∨ identityPart record ∈ found.records.map identityPart)
      (.gate "global identity inventory is empty-authority or duplicated")
    if recordUser (identityPart record) = appleUserId then
      raiseIf (¬ (groupType record = 0 ∨ groupType record = 1) ∨ groupUuid record ≠ 0)
        (.gate "configured global identity is not built-in")
      return ⟨found.records ++ [record], found.configured ++ [identityPart record]⟩
    return ⟨found.records ++ [record], found.configured⟩

/-- `_global_records`. -/
def globalRecords (value : Handed) (appleUserId : Nat) : Except GateError GlobalRecords :=
  match value with
  | none => .error (.gate "global identity inventory is invalid")
  | some records => records.foldlM (globalRecord appleUserId) ⟨[], []⟩

/-- `set(a) == set(b)`. -/
def sameSet {α : Type} [DecidableEq α] (a b : List α) : Bool := a.all (· ∈ b) && b.all (· ∈ a)

/-! ## Selection -/

/-- `_record` of `t2_fprint_match_selection`, of a record that is `bytes`. -/
def selectionRecord (value : Bytes) (expectedUserId : Nat) : Except GateError (PyStr × Bytes) := do
  raiseIf (value.length ≠ 20) (.gate "T2 identity record is malformed")
  let identityUuid := Bytes.beNat (recordUuid value)
  raiseIf (recordUser value ≠ expectedUserId ∨ identityUuid = 0) (.gate "T2 identity record has the wrong authority")
  return (uuidStr identityUuid, value)

/-- The body of the loop of `select`. -/
def parseRecord (expectedUserId : Nat) (parsed : List (PyStr × Bytes)) (raw : Bytes) :
    Except GateError (List (PyStr × Bytes)) := do
  let (identityUuid, record) ← selectionRecord raw expectedUserId
  raiseIf (identityUuid ∈ parsed.map Prod.fst) (.gate "T2 identity inventory is duplicated")
  return parsed ++ [(identityUuid, record)]

section Gates

variable {φ : Type} (catacomb : UserCatacomb φ)

/-- `items[key]`, of a dictionary made of these items: the last one of a key counts. -/
def itemOf {α β : Type} [DecidableEq α] (items : List (α × β)) (key : α) : Except GateError β :=
  match items.reverse.lookup key with
  | some value => .ok value
  | none => .error .keyError

/-- `select`, of records that are a tuple of `bytes`; its only caller has made sure of that. -/
def select (perUserIdentityRecords : List Bytes) (fingerName : PyStr) : Except GateError (PyStr × Bytes) := do
  raiseIf (fingerName ∉ fingerNameSet) (.gate "fprint finger name is invalid")
  let identities := catacomb.identities
  let names := identities.map (·.name)
  raiseIf (identities = [] ∨ (names.any fun name => name ∉ fingerNameSet) ∨ ¬ names.Nodup)
    (.gate "local identities do not have complete unique fprint names")
  match identities.filter (·.name = fingerName) with
  | [selected] => do
    raiseIf (perUserIdentityRecords.length ≠ identities.length)
      (.gate "local and T2 identity inventories disagree")
    let parsed ← perUserIdentityRecords.foldlM (parseRecord catacomb.expectedUserId) []
    raiseIf (¬ sameSet (parsed.map Prod.fst) (identities.map (·.uuid)))
      (.gate "local and T2 identity inventories disagree")
    let record ← itemOf parsed selected.uuid
    return (fingerName, record)
  | _ => .error (.gate "requested fprint identity is not uniquely enrolled")

/-- `FprintMatchSelectionError` becomes an error of the gate. -/
def selectionError : GateError → GateError
  | .gate _ => .gate "named identity selection failed"
  | .keyError => .keyError

/-! ## Gates -/

variable (components : HandedComponents) (firstPerUser firstGlobal secondPerUser secondGlobal : Handed)

/-- `prepare`. -/
def prepare (fingerName : PyStr) : Except GateError TargetedMatchGate := do
  let appleUserId := catacomb.expectedUserId
  let firstUser ← perUserRecords firstPerUser appleUserId
  let secondUser ← perUserRecords secondPerUser appleUserId
  let firstAll ← globalRecords firstGlobal appleUserId
  let secondAll ← globalRecords secondGlobal appleUserId
  raiseIf (firstUser ≠ secondUser ∨ firstAll.records ≠ secondAll.records) (.gate "live identity inventory is unstable")
  raiseIf (¬ sameSet firstAll.configured firstUser ∨ ¬ sameSet secondAll.configured firstUser)
    (.gate "global and per-user identity inventories disagree")
  let selected ← (select catacomb firstUser fingerName).mapError selectionError
  let hashes ← componentHashes components
  return ⟨selected.1, selected.2, ⟨firstUser, firstAll.records, hashes⟩⟩

/-- `prepare_all`. -/
def prepareAll : Except GateError AllMatchGate :=
  match catacomb.identities with
  | [] => .error (.gate "local Catacomb has no matchable identities")
  | first :: _ => do
    let validated ← prepare catacomb components firstPerUser firstGlobal secondPerUser secondGlobal first.name
    let namesByUuid := catacomb.identities.map fun identity => (uuidBytes identity.uuid, identity.name)
    let identityNameRecords ← validated.inventory.perUserRecords.mapM fun record => do
      return (record, ← itemOf namesByUuid (recordUuid record))
    return ⟨identityNameRecords, validated.inventory⟩

/-- `sorted(local.identities, key=lambda identity: identity.entity)`. -/
def ordered : List (Identity φ) := catacomb.identities.insertionSort fun a b => a.entity ≤ b.entity

/-- `prepare_slots`, behind the tests of the inventories. -/
def bindSlots (firstUser firstAll : List Bytes) : Except GateError SlotMatchGate := do
  let recordsByUuid := firstUser.map fun record => (recordUuid record, record)
  let localUuids := (ordered catacomb).map fun identity => uuidBytes identity.uuid
  raiseIf ((recordsByUuid.map Prod.fst).dedup.length ≠ firstUser.length
      ∨ (ordered catacomb).length ≠ firstUser.length ∨ ¬ sameSet (recordsByUuid.map Prod.fst) localUuids)
    (.gate "local and live identity inventories disagree")
  let identitySlotRecords ← ((ordered catacomb).zipIdx 1).mapM fun e => do
    return (← itemOf recordsByUuid (uuidBytes e.1.uuid), e.2)
  let hashes ← componentHashes components
  return ⟨identitySlotRecords, ⟨firstUser, firstAll, hashes⟩⟩

/-- `prepare_slots`. -/
def prepareSlots : Except GateError SlotMatchGate := do
  raiseIf (catacomb.identities.isEmpty) (.gate "local Catacomb has no matchable identities")
  let appleUserId := catacomb.expectedUserId
  let firstUser ← perUserRecords firstPerUser appleUserId
  let secondUser ← perUserRecords secondPerUser appleUserId
  let firstAll ← globalRecords firstGlobal appleUserId
  let secondAll ← globalRecords secondGlobal appleUserId
  raiseIf (firstUser ≠ secondUser ∨ firstAll.records ≠ secondAll.records) (.gate "live identity inventory is unstable")
  raiseIf (¬ sameSet firstAll.configured firstUser ∨ ¬ sameSet secondAll.configured firstUser)
    (.gate "global and per-user identity inventories disagree")
  bindSlots catacomb components firstUser firstAll.records

end Gates

end T2TouchId.Fprint
