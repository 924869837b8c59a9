/-
  The second reader of the Catacomb components (`src/t2_catacomb_oracle.py`).

  The codec has what it wrote read by a reader that shares none of its code.  This reader asks for less of the
  graph as a whole and takes a value where the codec wants a reference to one; what it says of a component
  is a description, with the hash of the secure data.

  1. **Data** — the three descriptions.
  2. **Program** — `Graph`, and `readMaster`, `readBiolockout`, `readUser`.
-/
import T2TouchId.Catacomb.Codec

namespace T2TouchId.Catacomb.Oracle

open T2TouchId.Python T2TouchId.Python.Json T2TouchId.User
open T2TouchId.Catacomb.Codec (Identity hasSurrogate utf8Size bplistHeader catacombMagic biolockoutMagic)

/-! ## Data -/

/-- What a reader raises. -/
inductive ReadError
  /-- `OracleError`. -/
  | oracle (message : String)
  | recursionError
  | overflowError
  | unicodeError
  deriving DecidableEq

structure MasterReading (φ : Type) where
  secureSha256 : String
  secureLength : Nat
  enrollmentCount : Nat
  currentTime : φ

structure BiolockoutReading where
  secureSha256 : String
  secureLength : Nat

structure UserReading (φ : Type) where
  userId : Int
  accountUuid : PyStr
  keybagUuid : PyStr
  secureSha256 : String
  secureLength : Nat
  identities : List (Identity φ)

structure AccessoryModel where
  uuid : PyStr
  flags : Nat
  name : PyStr
  kind : Nat
  groupUuid : PyStr
  groupName : PyStr
  groupKind : Nat
  deriving DecidableEq

/-- The only accessory there is. -/
def builtin : AccessoryModel := ⟨uuidStr 0, 6, py "Builtin", 1, uuidStr 0, py "Builtin", 1⟩

/-- The top of an archive and its objects. -/
structure Graph (φ ρ : Type) where
  top : Node φ ρ
  objects : List ρ

/-- `CHAINS`. -/
def chains : List (String × List String) :=
  [("NSMutableData", ["NSMutableData", "NSData", "NSObject"]),
   ("NSMutableArray", ["NSMutableArray", "NSArray", "NSObject"]),
   ("BiometricKitIdentity", ["BiometricKitIdentity", "NSObject"]),
   ("NSDate", ["NSDate", "NSObject"]),
   ("BiometricKitAccessory", ["BiometricKitAccessory", "NSObject"]),
   ("BiometricKitAccessoryGroup", ["BiometricKitAccessoryGroup", "NSObject"]),
   ("NSUUID", ["NSUUID", "NSObject"])]

/-- `_digest`. -/
def digest (data : Bytes) : String := (sha256 data).hex

section Program

variable {φ ρ : Type} [PlistFloat φ] (node : ρ → Node φ ρ)

/-! ## The graph -/

section Read

variable (graph : Graph φ ρ)

/-- `Graph.index`. -/
def index (value : Node φ ρ) (field : String) : Except ReadError Nat :=
  match reference graph.objects value with
  | some index => .ok index
  | none => .error (.oracle ("invalid " ++ field ++ " reference"))

/-- `Graph.get`. -/
def get (value : Node φ ρ) (field : String) : Except ReadError (Node φ ρ) :=
  match target node graph.objects value with
  | some object => .ok object
  | none => .error (.oracle ("invalid " ++ field ++ " reference"))

/-- `self.get(value, field) if isinstance(value, plistlib.UID) else value`. -/
def itemOf (value : Node φ ρ) (field : String) : Except ReadError (Node φ ρ) :=
  match value with
  | .uid data => get node graph (.uid data) field
  | value => .ok value

/-- `Graph.classed`. -/
def classed (value : Node φ ρ) (name : String) (keys : List String) (field : String) :
    Except ReadError (Node φ ρ) := do
  let item ← itemOf node graph value field
  raiseIf (¬ item.hasKeys ("$class" :: keys)) (.oracle ("invalid " ++ field ++ " schema"))
  let descriptor ← get node graph (item.get node "$class") (field ++ " class")
  raiseIf (¬ descriptor.hasKeys ["$classname", "$classes"] ∨ ¬ (descriptor.get node "$classname").isStr (py name)
      ∨ ¬ (descriptor.get node "$classes").isTexts node ((chains.lookup name).getD []))
    (.oracle ("invalid " ++ field ++ " class"))
  return item

/-- `Graph.text`. -/
def text (value : Node φ ρ) (field : String) : Except ReadError PyStr := do
  let value ← get node graph value field
  match value with
  | .str text =>
    raiseIf (hasSurrogate text) .unicodeError
    raiseIf (utf8Size text > 1024) (.oracle ("invalid " ++ field))
    return text
  | _ => .error (.oracle ("invalid " ++ field))

end Read

/-- `Graph.integer`. -/
def integer (value : Node φ ρ) (field : String) : Except ReadError Nat :=
  match value with
  | .int i => if 0 ≤ i ∧ i ≤ 0xFFFFFFFF then .ok i.toNat else .error (.oracle ("invalid " ++ field))
  | _ => .error (.oracle ("invalid " ++ field))

/-- `Graph.raw_uuid`. -/
def rawUuid (value : Node φ ρ) (field : String) : Except ReadError PyStr :=
  match value with
  | .bytes data =>
    if data.length = 16 then .ok (uuidStr (Bytes.beNat data)) else .error (.oracle ("invalid " ++ field))
  | _ => .error (.oracle ("invalid " ++ field))

section Read

variable (graph : Graph φ ρ)

/-- `Graph.archived_uuid`. -/
def archivedUuid (value : Node φ ρ) (field : String) : Except ReadError PyStr := do
  let item ← classed node graph value "NSUUID" ["NS.uuidbytes"] field
  rawUuid (item.get node "NS.uuidbytes") field

/-- `Graph.data`. -/
def data (value : Node φ ρ) (magic : Bytes) (field : String) : Except ReadError Bytes := do
  let item ← classed node graph value "NSMutableData" ["NS.data"] field
  match item.get node "NS.data" with
  | .bytes data =>
    raiseIf (¬ (16 ≤ data.length ∧ data.length ≤ 1024 * 1024) ∨ data.take 4 ≠ magic)
      (.oracle ("invalid " ++ field ++ " envelope"))
    return data
  | _ => .error (.oracle ("invalid " ++ field ++ " envelope"))

/-- `Graph.date`. -/
def date (value : Node φ ρ) (field : String) : Except ReadError φ := do
  let item ← classed node graph value "NSDate" ["NS.time"] field
  match item.get node "NS.time" with
  | .int i =>
    match PlistFloat.ofInt (φ := φ) i with
    | some time => .ok time
    | none => .error .overflowError
  | .float x => if PlistFloat.isFinite x then .ok x else .error (.oracle ("invalid " ++ field))
  | _ => .error (.oracle ("invalid " ++ field))

/-- `Graph._reachable`. -/
def reachable (room : Nat) : Except ReadError Unit := do
  let all ← (reachesAll node graph.objects room graph.top).mapError fun
    | .recursion => .recursionError
    | .reference => .oracle "invalid graph reference"
    | .cycle => .oracle "cyclic object graph"
  raiseIf (¬ all) (.oracle "unreachable object")

end Read

variable (loads : Bytes → Option ρ) (room : Nat)

/-- `Graph.__init__`. -/
def openGraph (data : Bytes) : Except ReadError (Graph φ ρ) := do
  raiseIf (¬ (0 < data.length ∧ data.length ≤ 1024 * 1024) ∨ ¬ bplistHeader.isPrefixOf data)
    (.oracle "not a bounded binary plist")
  match loads data with
  | none => .error (.oracle "invalid binary plist")
  | some reference =>
    let root := node reference
    let unknown := ReadError.oracle "unknown keyed-archive root"
    raiseIf (¬ root.hasKeys ["$version", "$archiver", "$top", "$objects"]
      ∨ ¬ (root.get node "$version").isInt 100000 ∨ ¬ (root.get node "$archiver").isStr (py "NSKeyedArchiver")
      ∨ ¬ (root.get node "$top").isDict) unknown
    match root.get node "$objects" with
    | .list objects =>
      raiseIf (¬ (1 ≤ objects.length ∧ objects.length ≤ 256)
        ∨ ¬ objects.head?.any fun first => (node first).isStr (py "$null")) unknown
      let graph := ⟨root.get node "$top", objects⟩
      reachable node graph room
      return graph
    | _ => .error unknown

/-! ## The readers -/

/-- `read_master`. -/
def readMaster (bytes : Bytes) : Except ReadError (MasterReading φ) := do
  let graph ← openGraph node loads room bytes
  raiseIf (¬ graph.top.hasKeys ["CatacombVersion", "CatacombSecureData", "CatacombCurrentDate", "CatacombUserID",
      "CatacombEnrollmentCount"] ∨ ¬ (graph.top.get node "CatacombVersion").isInt 0x30000
      ∨ ¬ (graph.top.get node "CatacombUserID").isInt (-1))
    (.oracle "invalid master top")
  let secure ← data node graph (graph.top.get node "CatacombSecureData") catacombMagic "master secure data"
  let enrollmentCount ← integer (graph.top.get node "CatacombEnrollmentCount") "enrollment count"
  let currentTime ← date node graph (graph.top.get node "CatacombCurrentDate") "master date"
  return ⟨digest secure, secure.length, enrollmentCount, currentTime⟩

/-- `read_biolockout`. -/
def readBiolockout (bytes : Bytes) : Except ReadError BiolockoutReading := do
  let graph ← openGraph node loads room bytes
  raiseIf (¬ graph.top.hasKeys ["BioLockoutRecordSecureData", "BioLockoutRecordVersion"]
      ∨ ¬ (graph.top.get node "BioLockoutRecordVersion").isInt 0x10000)
    (.oracle "invalid bio-lockout top")
  let secure ← data node graph (graph.top.get node "BioLockoutRecordSecureData") biolockoutMagic
    "bio-lockout secure data"
  return ⟨digest secure, secure.length⟩

/-- The model of an accessory. -/
def accessoryModel (graph : Graph φ ρ) (value : Node φ ρ) : Except ReadError AccessoryModel := do
  let accessory ← classed node graph value "BiometricKitAccessory"
    ["BKAccessoryUUID", "BKAccessoryFlags", "BKAccessoryName", "BKAccessoryType", "BKAccessoryGroup"] "accessory"
  let group ← classed node graph (accessory.get node "BKAccessoryGroup") "BiometricKitAccessoryGroup"
    ["BKAccessoryGroupName", "BKAccessoryGroupType", "BKAccessoryGroupUUID"] "accessory group"
  let uuid ← rawUuid (accessory.get node "BKAccessoryUUID") "accessory UUID"
  let flags ← integer (accessory.get node "BKAccessoryFlags") "accessory flags"
  let name ← text node graph (accessory.get node "BKAccessoryName") "accessory name"
  let kind ← integer (accessory.get node "BKAccessoryType") "accessory type"
  let groupUuid ← rawUuid (group.get node "BKAccessoryGroupUUID") "group UUID"
  let groupName ← text node graph (group.get node "BKAccessoryGroupName") "group name"
  let groupKind ← integer (group.get node "BKAccessoryGroupType") "group type"
  return ⟨uuid, flags, name, kind, groupUuid, groupName, groupKind⟩

/-- The body of the loop over the identities: the index and the model of the accessory, and the identity. -/
def readIdentity (graph : Graph φ ρ) (expectedUserId : Int) (value : Node φ ρ) :
    Except ReadError ((Nat × AccessoryModel) × Identity φ) := do
  let item ← classed node graph value "BiometricKitIdentity"
    ["BKIdentityMatchCount", "BKIdentityCreationTime", "BKIdentityEntityNumber", "BKIdentityUUID",
     "BKIdentityFlags", "BKIdentityMatchCountContinuous", "BKIdentityName", "BKIdentityType",
     "BKIdentityAccessory", "BKIdentityUpdateCount", "BKIdentityUserID", "BKIdentityAttribute"] "identity"
  let userId ← integer (item.get node "BKIdentityUserID") "identity user ID"
  raiseIf ((userId : Int) ≠ expectedUserId) (.oracle "foreign identity user")
  let accessory ← accessoryModel node graph (item.get node "BKIdentityAccessory")
  let place ← index graph (item.get node "BKIdentityAccessory") "accessory"
  let uuid ← rawUuid (item.get node "BKIdentityUUID") "identity UUID"
  let entity ← integer (item.get node "BKIdentityEntityNumber") "identity entity"
  let name ← text node graph (item.get node "BKIdentityName") "identity name"
  let identityType ← integer (item.get node "BKIdentityType") "identity type"
  let flags ← integer (item.get node "BKIdentityFlags") "identity flags"
  let identityAttribute ← integer (item.get node "BKIdentityAttribute") "identity attribute"
  let matchCount ← integer (item.get node "BKIdentityMatchCount") "match count"
  let continuousMatchCount ← integer (item.get node "BKIdentityMatchCountContinuous") "continuous match count"
  let updateCount ← integer (item.get node "BKIdentityUpdateCount") "update count"
  let creationTime ← date node graph (item.get node "BKIdentityCreationTime") "creation time"
  return ((place, accessory), { uuid, userId, entity, name, identityType, flags, identityAttribute, matchCount,
                                continuousMatchCount, updateCount, creationTime })

/-- `read_user`. -/
def readUser (bytes : Bytes) (expectedUserId : Int) : Except ReadError (UserReading φ) := do
  let graph ← openGraph node loads room bytes
  raiseIf (¬ graph.top.hasKeys ["CatacombVersion", "CatacombSecureData", "CatacombUserKeybagUUID",
      "CatacombUserID", "CatacombIdentityList", "CatacombUserUUID"]
      ∨ ¬ (graph.top.get node "CatacombVersion").isInt 0x30000
      ∨ ¬ (graph.top.get node "CatacombUserID").isInt expectedUserId)
    (.oracle "invalid user top")
  let secure ← data node graph (graph.top.get node "CatacombSecureData") catacombMagic "user secure data"
  let array ← classed node graph (graph.top.get node "CatacombIdentityList") "NSMutableArray" ["NS.objects"]
    "identity list"
  match array.get node "NS.objects" with
  | .list references =>
    raiseIf (references.length > 10) (.oracle "invalid identity array")
    let read ← references.mapM fun reference => readIdentity node graph expectedUserId (node reference)
    let accessories := read.map Prod.fst
    let identities := read.map Prod.snd
    raiseIf (¬ (identities.map (·.uuid)).Nodup ∨ ¬ (identities.map (·.entity)).Nodup)
      (.oracle "duplicate identity UUID/entity")
    raiseIf ((accessories.map Prod.fst).dedup.length > 1 ∨ accessories.any fun e => e.2 ≠ builtin)
      (.oracle "unsupported accessory model")
    let accountUuid ← archivedUuid node graph (graph.top.get node "CatacombUserUUID") "account UUID"
    let keybagUuid ← archivedUuid node graph (graph.top.get node "CatacombUserKeybagUUID") "keybag UUID"
    return ⟨expectedUserId, accountUuid, keybagUuid, digest secure, secure.length, identities⟩
  | _ => .error (.oracle "invalid identity array")

end Program

end T2TouchId.Catacomb.Oracle
